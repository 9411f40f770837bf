/-!
# Instants

Texts of dates denote instants: a date with a time of day and an offset, or a
date alone, which stands for its midnight in UTC. The calendar is the proleptic
Gregorian one.
-/
namespace DocumentSchema

/-- A point in time, in nanoseconds since the start of the year 0. -/
structure Instant where
  nanoseconds : Int
  deriving DecidableEq, Repr

structure Date where
  year : Int
  month : Nat
  day : Nat
  deriving DecidableEq, Repr

def isLeapYear (year : Int) : Bool :=
  year % 4 = 0 ∧ (year % 100 ≠ 0 ∨ year % 400 = 0)

def daysInMonth (year : Int) (month : Nat) : Nat :=
  if month = 2 then if isLeapYear year then 29 else 28
  else if month = 4 ∨ month = 6 ∨ month = 9 ∨ month = 11 then 30
  else 31

namespace Date

def isValid (d : Date) : Bool :=
  1 ≤ d.month ∧ d.month ≤ 12 ∧ 1 ≤ d.day ∧ d.day ≤ daysInMonth d.year d.month

/-- Days from the start of the year 0 to the start of a year. -/
def daysBeforeYear (year : Int) : Int :=
  365 * year + (year + 3) / 4 - (year + 99) / 100 + (year + 399) / 400

def daysBeforeMonth (year : Int) (month : Nat) : Nat :=
  (List.range (month - 1)).foldl (fun days m => days + daysInMonth year (m + 1)) 0

def dayNumber (d : Date) : Int :=
  daysBeforeYear d.year + daysBeforeMonth d.year d.month + (d.day : Int) - 1

end Date

/-- The digits' value when there are exactly as many as asked for. -/
def takeFixed (count : Nat) (cs : List Char) : Option (Nat × List Char) :=
  let digits := cs.take count
  if digits.length = count ∧ digits.all Char.isDigit then
    some (digits.foldl (fun n c => n * 10 + (c.toNat - '0'.toNat)) 0, cs.drop count)
  else none

def takeChar (c : Char) : List Char → Option (List Char)
  | [] => none
  | d :: rest => if d = c then some rest else none

/-- Month and day after a year, each of two digits with a dash in front; the date must exist. -/
def takeMonthDay (year : Int) (cs : List Char) : Option (Date × List Char) := do
  let cs ← takeChar '-' cs
  let (month, cs) ← takeFixed 2 cs
  let cs ← takeChar '-' cs
  let (day, cs) ← takeFixed 2 cs
  let d : Date := ⟨year, month, day⟩
  if d.isValid then return (d, cs) else none

/-- Nanoseconds from the digits after a point; digits past the ninth have no effect. -/
def nanosecondsOf (digits : List Char) : Nat :=
  ((digits ++ List.replicate 9 '0').take 9).foldl (fun n c => n * 10 + (c.toNat - '0'.toNat)) 0

def takeFraction : List Char → Option (Nat × List Char)
  | '.' :: cs =>
    let digits := cs.takeWhile Char.isDigit
    if digits.isEmpty then none else some (nanosecondsOf digits, cs.dropWhile Char.isDigit)
  | cs => some (0, cs)

/-- Minutes east of UTC: `Z`, or a sign with hours and minutes. -/
def takeOffset : List Char → Option (Int × List Char)
  | [] => none
  | c :: cs =>
    if c = 'Z' ∨ c = 'z' then some (0, cs)
    else if c = '+' ∨ c = '-' then do
      let (hours, cs) ← takeFixed 2 cs
      let cs ← takeChar ':' cs
      let (minutes, cs) ← takeFixed 2 cs
      if hours ≤ 23 ∧ minutes ≤ 59 then
        let m : Int := hours * 60 + minutes
        return (if c = '-' then -m else m, cs)
      else none
    else none

def secondsPerDay : Int := 86400

namespace Instant

def ofSeconds (seconds : Int) (nanoseconds : Nat) : Instant :=
  ⟨seconds * 1000000000 + nanoseconds⟩

def maxYear : Int := 9999

/-- Whether a second of UTC is the last one of a month. -/
def endsMonth (seconds : Int) : Bool :=
  seconds % secondsPerDay = secondsPerDay - 1 &&
    (List.range 12).any fun m =>
      let day := seconds / secondsPerDay
      -- the year of a day is near `day / 365.2425`
      let guess := day * 400 / 146097
      [guess - 1, guess, guess + 1].any fun year =>
        -maxYear ≤ year ∧ year ≤ maxYear ∧
          (Date.mk year (m + 1) (daysInMonth year (m + 1))).dayNumber = day

/-- A date and a time of day with any ASCII character between them, and an offset. A leap second
may only be the last second of a month and counts as the nanosecond before it ends. -/
def ofDateTime? (cs : List Char) : Option Instant := do
  let (year, cs) ← takeFixed 4 cs
  let (date, cs) ← takeMonthDay year cs
  match cs with
  | [] => none
  | separator :: cs =>
    if separator.toNat < 128 then
      let (hour, cs) ← takeFixed 2 cs
      let cs ← takeChar ':' cs
      let (minute, cs) ← takeFixed 2 cs
      let cs ← takeChar ':' cs
      let (second, cs) ← takeFixed 2 cs
      let (nanoseconds, cs) ← takeFraction cs
      let (offset, cs) ← takeOffset cs
      if cs.isEmpty ∧ hour ≤ 23 ∧ minute ≤ 59 ∧ second ≤ 60 then
        let minutes : Int := hour * 60 + minute - offset
        let start : Int := date.dayNumber * secondsPerDay + minutes * 60
        if second = 60 then
          if endsMonth (start + 59) then some (ofSeconds (start + 59) 999999999) else none
        else some (ofSeconds (start + second) nanoseconds)
      else none
    else none

/-- A date alone; its year has four digits and may have a sign. -/
def ofDate? (cs : List Char) : Option Instant := do
  let (sign, cs) : Int × List Char := match cs with
    | '+' :: cs => (1, cs)
    | '-' :: cs => (-1, cs)
    | cs => (1, cs)
  let (year, cs) ← takeFixed 4 cs
  let (date, cs) ← takeMonthDay (sign * year) cs
  if cs.isEmpty then some (ofSeconds (date.dayNumber * secondsPerDay) 0) else none

/-- The instant that a text denotes. -/
def parse (text : String) : Option Instant :=
  match ofDateTime? text.toList with
  | some t => some t
  | none => ofDate? text.toList

end Instant

end DocumentSchema

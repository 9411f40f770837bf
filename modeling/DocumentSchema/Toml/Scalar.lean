import DocumentSchema.Toml
import DocumentSchema.Json.Double
import DocumentSchema.Instant

/-!
# TOML scalars

Numbers, dates, times and truth values are single words. A word is read as a
whole or not at all.
-/
namespace DocumentSchema

namespace Toml

def digitsOf? (isDigit : Char → Bool) : List Char → Option (List Char)
  | [] => none
  | [c] => if isDigit c then some [c] else none
  | c :: '_' :: rest => if isDigit c then (digitsOf? isDigit rest).map (c :: ·) else none
  | c :: rest => if isDigit c then (digitsOf? isDigit rest).map (c :: ·) else none

def digitValue (c : Char) : Nat :=
  if c.isDigit then c.toNat - '0'.toNat else c.toLower.toNat - 'a'.toNat + 10

def valueOf (base : Nat) (digits : List Char) : Nat :=
  digits.foldl (fun n c => n * base + digitValue c) 0

def isHex (c : Char) : Bool := c.isDigit || ('a' ≤ c && c ≤ 'f') || ('A' ≤ c && c ≤ 'F')

def isOctal (c : Char) : Bool := '0' ≤ c && c ≤ '7'

def isBinary (c : Char) : Bool := c = '0' || c = '1'

def decimalDigits? (cs : List Char) : Option (List Char) :=
  match digitsOf? Char.isDigit cs with
  | some ('0' :: _ :: _) => none
  | r => r

def splitSign : List Char → Option Bool × List Char
  | '+' :: cs => (some false, cs)
  | '-' :: cs => (some true, cs)
  | cs => (none, cs)

def integer? (cs : List Char) : Option Toml :=
  match cs with
  | '0' :: 'x' :: ds => (digitsOf? isHex ds).map fun ds => .integer (valueOf 16 ds)
  | '0' :: 'o' :: ds => (digitsOf? isOctal ds).map fun ds => .integer (valueOf 8 ds)
  | '0' :: 'b' :: ds => (digitsOf? isBinary ds).map fun ds => .integer (valueOf 2 ds)
  | _ =>
    let (sign, ds) := splitSign cs
    (decimalDigits? ds).map fun ds =>
      let n : Int := valueOf 10 ds
      .integer (if sign = some true then -n else n)

/-- Whether `digits * 10 ^ exponent` is too large for a double. -/
def overflows (digits : List Char) (exponent : Int) : Bool :=
  let significant := digits.dropWhile (· = '0')
  let places : Int := exponent + significant.length
  if significant.isEmpty then false
  else if 310 < places then true
  else if places < 300 then false
  else
    let n := valueOf 10 significant
    let place := if exponent < 0 then Double.nearest n (Nat.pow 10 (-exponent).toNat)
      else Double.nearest (n * Nat.pow 10 exponent.toNat) 1
    Double.infinitePlace ≤ place

/-- An exponent has a sign or not, and may start with zeros. -/
def exponent? (cs : List Char) : Option Int :=
  let (sign, ds) := splitSign cs
  (digitsOf? Char.isDigit ds).map fun ds =>
    let n : Int := valueOf 10 ds
    if sign = some true then -n else n

/-- A float has a fraction, an exponent or both, or is named. -/
def float? (cs : List Char) : Option Toml := do
  let (_, cs) := splitSign cs
  if cs = ['i', 'n', 'f'] ∨ cs = ['n', 'a', 'n'] then return .float false
  let isMark (c : Char) : Bool := c = 'e' || c = 'E'
  let mantissa := cs.takeWhile fun c => !isMark c
  let mark := cs.dropWhile fun c => !isMark c
  let exponent ← if mark.isEmpty then some 0 else exponent? (mark.drop 1)
  let whole ← decimalDigits? (mantissa.takeWhile (· ≠ '.'))
  let point := mantissa.dropWhile (· ≠ '.')
  let fraction ← if point.isEmpty then some [] else digitsOf? Char.isDigit (point.drop 1)
  if mark.isEmpty ∧ point.isEmpty then none
  else return .float (overflows (whole ++ fraction) (exponent - fraction.length))

/-- A time of day; seconds and their fraction may be left out. -/
def takeTime (cs : List Char) : Option (List Char) := do
  let (hour, cs) ← takeFixed 2 cs
  let cs ← takeChar ':' cs
  let (minute, cs) ← takeFixed 2 cs
  if 23 < hour ∨ 59 < minute then none
  else
    match cs with
    | ':' :: cs =>
      let (second, cs) ← takeFixed 2 cs
      let (_, cs) ← takeFraction cs
      if 60 < second then none else return cs
    | cs => return cs

def takeDate (cs : List Char) : Option (List Char) := do
  let (year, cs) ← takeFixed 4 cs
  let (_, cs) ← takeMonthDay year cs
  return cs

def isOffset (cs : List Char) : Bool :=
  match cs with
  | [] => true
  | [c] => c = 'Z' || c = 'z'
  | c :: cs =>
    (c = '+' || c = '-') &&
      match takeFixed 2 cs with
      | some (hours, ':' :: cs) =>
        match takeFixed 2 cs with
        | some (minutes, []) => hours ≤ 23 && minutes ≤ 59
        | _ => false
      | _ => false

def dateTime? (cs : List Char) : Option Toml :=
  match takeDate cs with
  | some [] => some .dateTime
  | some (separator :: rest) =>
    if separator = 'T' ∨ separator = 't' ∨ separator = ' ' then
      match takeTime rest with
      | some rest => if isOffset rest then some .dateTime else none
      | none => none
    else none
  | none =>
    match takeTime cs with
    | some [] => some .dateTime
    | _ => none

def scalar? (cs : List Char) : Option Toml :=
  if cs = ['t', 'r', 'u', 'e'] then some (.bool true)
  else if cs = ['f', 'a', 'l', 's', 'e'] then some (.bool false)
  else (integer? cs).or ((float? cs).or (dateTime? cs))

end Toml

end DocumentSchema

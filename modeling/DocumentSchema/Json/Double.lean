/-!
# Finite binary64 numbers

A double is its sign together with the place of its magnitude among the
non-negative finite doubles in increasing order. That place is the bit pattern
without the sign bit, so the order of doubles is the order of integers, and
rounding is a function from exact ratios to places.
-/
namespace DocumentSchema

/-- A finite binary64 number. `place` counts the non-negative doubles below its magnitude. -/
structure Double where
  negative : Bool
  place : Nat
  deriving DecidableEq, Repr

namespace Double

/-- The place just past the largest finite double. -/
def infinitePlace : Nat := 0x7FF0000000000000

/-- The number of doubles that share an exponent, `2 ^ 52`. -/
def binadeSize : Nat := 0x10000000000000

/-- The integer `m` and exponent `q` with magnitude `m * 2 ^ q` at a place. -/
def parts (place : Nat) : Nat × Int :=
  let e : Nat := place / binadeSize
  let m : Nat := place % binadeSize
  if e = 0 then (m, -1074) else (m + binadeSize, (e : Int) - 1075)

def ratio (place : Nat) : Nat × Nat :=
  let (m, q) := parts place
  if q < 0 then (m, Nat.pow 2 (-q).toNat) else (m * Nat.pow 2 q.toNat, 1)

/-- `num / den` to the nearest integer, a half going to the even one. -/
def divHalfEven (num den : Nat) : Nat :=
  let c := num / den
  let r := num % den
  if 2 * r < den then c
  else if den < 2 * r then c + 1
  else if c % 2 = 0 then c else c + 1

/-- The largest `e` with `2 ^ e ≤ num / den`, for positive arguments. -/
def binaryExponent (num den : Nat) : Int :=
  let e : Int := (num.log2 : Int) - (den.log2 : Int)
  let below := if e < 0 then num * Nat.pow 2 (-e).toNat < den
    else num < den * Nat.pow 2 e.toNat
  if below then e - 1 else e

/-- The place of the double nearest to `num / den`; places from `infinitePlace` on overflow. -/
def nearest (num den : Nat) : Nat :=
  if num = 0 then 0
  else
    let q := max (-1074) (binaryExponent num den - 52)
    let m := if q < 0 then divHalfEven (num * Nat.pow 2 (-q).toNat) den
      else divHalfEven num (den * Nat.pow 2 q.toNat)
    (q + 1074).toNat * binadeSize + m

/-- Doubles are ordered by this key; the two zeros share it. -/
def key (d : Double) : Int := if d.negative then -(d.place : Int) else d.place

def ofInt (n : Int) : Double := ⟨n < 0, nearest n.natAbs 1⟩

theorem key_negative (p : Nat) : key ⟨true, p⟩ = -(p : Int) := rfl

theorem key_nonnegative (p : Nat) : key ⟨false, p⟩ = (p : Int) := rfl

def powerOfTen (k : Nat) : Nat := nearest (Nat.pow 10 k) 1

def times (a b : Nat) : Nat :=
  let (an, ad) := ratio a
  let (bn, bd) := ratio b
  nearest (an * bn) (ad * bd)

def quotient (a b : Nat) : Nat :=
  let (an, ad) := ratio a
  let (bn, bd) := ratio b
  nearest (an * bd) (ad * bn)

/-- Divides by `10 ^ k`, taking `10 ^ 308` at a time and rounding after each division. -/
def downscale (place : Nat) (k : Nat) : Nat :=
  if k ≤ 308 then quotient place (powerOfTen k)
  else if place = 0 then 0
  else downscale (quotient place (powerOfTen 308)) (k - 308)
  termination_by k

/-- Multiplies by `10 ^ k` with one rounding; nothing when the result overflows. -/
def upscale (place : Nat) (k : Nat) : Option Nat :=
  if k ≤ 308 then
    let scaled := times place (powerOfTen k)
    if scaled < infinitePlace then some scaled else none
  else if place = 0 then some 0
  else none

/-- The magnitude of `significand * 10 ^ exponent`: the significand is rounded first and each
scaling step after it. -/
def scaled (significand : Nat) (exponent : Int) : Option Nat :=
  let place := nearest significand 1
  if exponent < 0 then some (downscale place (-exponent).toNat) else upscale place exponent.toNat

/-- `num / den * 10 ^ s` as a ratio. -/
def shifted (num den : Nat) (s : Int) : Nat × Nat :=
  if s < 0 then (num, den * Nat.pow 10 (-s).toNat) else (num * Nat.pow 10 s.toNat, den)

/-- `a ≤ b` for ratios, or `a < b` when `strict`. -/
def ratioBelow (strict : Bool) (a b : Nat × Nat) : Bool :=
  if strict then a.1 * b.2 < b.1 * a.2 else a.1 * b.2 ≤ b.1 * a.2

/-- The midpoint of the magnitudes at two neighbouring places. -/
def midpoint (a b : Nat) : Nat × Nat :=
  let (an, ad) := ratio a
  let (bn, bd) := ratio b
  (an * bd + bn * ad, 2 * ad * bd)

/-- The largest `e` with `10 ^ e ≤ num / den`, for positive arguments. -/
def decimalExponent (num den : Nat) : Int :=
  let guess : Int := binaryExponent num den * 30103 / 100000
  let above (e : Int) : Bool :=
    let (n, d) := shifted num den (-e)
    n < d
  if above guess then guess - 1 else if above (guess + 1) then guess else guess + 1

/-- Among the two decimals with `digits` digits next to the magnitude, the one that rounds to it
and is nearer, with the exponent of its last digit. -/
def decimalAt (place : Nat) (exponent : Int) (digits : Nat) : Option (Nat × Int) :=
  let (num, den) := ratio place
  let s : Int := (digits : Int) - 1 - exponent
  let (n, d) := shifted num den s
  let strict := place % 2 = 1
  let low := midpoint (place - 1) place
  let high := midpoint place (place + 1)
  let fits (c : Nat) : Bool :=
    let x := shifted c 1 (-s)
    ratioBelow strict low x && ratioBelow strict x high
  let below := n / d
  let nearer := divHalfEven n d
  let farther := if nearer = below then below + 1 else below
  if fits nearer then some (nearer, -s) else if fits farther then some (farther, -s) else none

/-- The shortest decimal that rounds to a positive magnitude, the nearest of the shortest ones:
its digits as a number and the exponent of the last digit. -/
def shortest (place : Nat) : Nat × Int :=
  let (num, den) := ratio place
  let e := decimalExponent num den
  ((List.range 17).findSome? fun i => decimalAt place e (i + 1)).getD (0, 0)

def trimZeros (digits : List Char) : List Char := (digits.reverse.dropWhile (· == '0')).reverse

/-- Positional notation from `10 ^ -5` to below `10 ^ 16`, scientific with a signed exponent
outside; a whole number keeps one zero after the point. -/
def magnitudeText (place : Nat) : String :=
  if place = 0 then "0.0"
  else
    let (c, q) := shortest place
    let all := Nat.toDigits 10 c
    let digits := trimZeros all
    let e : Int := q + (all.length : Int) - 1
    if -5 ≤ e ∧ e ≤ 15 then
      if e < 0 then
        "0." ++ String.ofList (List.replicate (-e - 1).toNat '0' ++ digits)
      else
        let k := e.toNat + 1
        let whole := digits.take k ++ List.replicate (k - digits.length) '0'
        let fraction := digits.drop k
        String.ofList whole ++ "." ++ (if fraction.isEmpty then "0" else String.ofList fraction)
    else
      let head := String.ofList (digits.take 1)
      let tail := digits.drop 1
      head ++ (if tail.isEmpty then "" else "." ++ String.ofList tail) ++
        (if e < 0 then "e-" else "e+") ++ toString e.natAbs

/-- The shortest text that reads back as this double. -/
def text (d : Double) : String := (if d.negative then "-" else "") ++ magnitudeText d.place

end Double

end DocumentSchema

import DocumentSchema.Pattern.CharSet

/-!
# Rows of property tables

A row gives the names of a property or of one of its values, and its characters
as text. The text is a list of numbers, two for each range: the distance from
the end of the range before, and the length of the range less one. A number is
written in base 32 with its low digits first; the last digit is one of `0` to
`9` and `a` to `v`, the digits before it are the other letters, `.` and `,`.
-/
namespace DocumentSchema

/-- Names, in lower case and without separators, and the lines of the text of a set. -/
abbrev PropertyRow := List String × List String

namespace Property

def digit (c : Char) : Nat × Bool :=
  if c.isDigit then (c.toNat - '0'.toNat, true)
  else if 'a' ≤ c ∧ c ≤ 'v' then (c.toNat - 'a'.toNat + 10, true)
  else if c.isUpper then (c.toNat - 'A'.toNat, false)
  else if c.isLower then (c.toNat - 'w'.toNat + 26, false)
  else if c = '.' then (30, false)
  else (31, false)

/-- Reads numbers; `value` and `weight` belong to the number that is under way. -/
def numbers (value weight : Nat) : List Char → List Nat
  | [] => []
  | c :: cs =>
    let (d, isLast) := digit c
    let value := value + d * weight
    if isLast then value :: numbers 0 1 cs else numbers value (weight * 32) cs

/-- Ranges from distances and lengths, the first distance being counted from `start`. -/
def rangesFrom (start : Nat) : List Nat → List (Nat × Nat)
  | distance :: length :: rest =>
    (start + distance, start + distance + length) ::
      rangesFrom (start + distance + length + 1) rest
  | _ => []

def decode (lines : List String) : CharSet :=
  ⟨rangesFrom 0 (numbers 0 1 (lines.flatMap String.toList))⟩

def lookup? (rows : List PropertyRow) (name : String) : Option CharSet :=
  (rows.find? fun row => row.1.contains name).map fun row => decode row.2

end Property

end DocumentSchema

import DocumentSchema.Json.Basic

/-!
# Reading JSON text

`Json.read` accepts the JSON grammar and nothing else. A numeral is read as an
integer when it is written as one and fits in 64 bits, signed or unsigned, and
as a double otherwise: the significand is the longest run of leading digits
that fits in 64 bits, and it is scaled by the remaining power of ten.
-/
namespace DocumentSchema

/-- A number as it is spelled: `whole`, then maybe a fraction and an exponent. -/
structure Numeral where
  negative : Bool
  whole : List Nat
  fraction : Option (List Nat)
  exponent : Option Int

namespace Numeral

/-- Appends digits while the result fits in 64 bits; also the digits that are left. -/
def extend (significand : Nat) : List Nat → Nat × List Nat
  | [] => (significand, [])
  | d :: rest =>
    if significand * 10 + d ≤ 0xFFFFFFFFFFFFFFFF then extend (significand * 10 + d) rest
    else (significand, d :: rest)

/-- The number that a numeral denotes, unless its magnitude overflows. -/
def number? (n : Numeral) : Option Number :=
  let (wholePart, skipped) := extend 0 n.whole
  let asDouble (significand : Nat) (exponent : Int) : Option Number :=
    (Double.scaled significand exponent).map fun place => .double ⟨n.negative, place⟩
  match n.fraction, n.exponent with
  | none, none =>
    if skipped ≠ [] then asDouble wholePart skipped.length
    else if !n.negative then some (.int wholePart)
    else if wholePart = 0 ∨ 0x8000000000000000 < wholePart then asDouble wholePart 0
    else some (.int (-(wholePart : Int)))
  | fraction, exponent =>
    let digits := fraction.getD []
    let (significand, dropped) := extend wholePart digits
    let kept := digits.length - dropped.length
    asDouble significand ((skipped.length : Int) - kept + exponent.getD 0)

end Numeral

namespace Json

def isBlank (c : Char) : Bool := c = ' ' ∨ c = '\t' ∨ c = '\n' ∨ c = '\r'

def skipBlanks (cs : List Char) : List Char := cs.dropWhile isBlank

def takeDigits (cs : List Char) : List Nat × List Char :=
  ((cs.takeWhile Char.isDigit).map fun c => c.toNat - '0'.toNat, cs.dropWhile Char.isDigit)

def digitsValue (ds : List Nat) : Nat := ds.foldl (fun n d => n * 10 + d) 0

/-- A fraction is a point with at least one digit after it. -/
def takeFraction : List Char → Option (Option (List Nat) × List Char)
  | '.' :: cs =>
    match takeDigits cs with
    | ([], _) => none
    | (ds, rest) => some (some ds, rest)
  | cs => some (none, cs)

def takeExponentDigits (negative : Bool) (cs : List Char) : Option (Option Int × List Char) :=
  match takeDigits cs with
  | ([], _) => none
  | (ds, rest) =>
    let n : Int := digitsValue ds
    some (some (if negative then -n else n), rest)

def takeExponent : List Char → Option (Option Int × List Char)
  | c :: cs =>
    if c = 'e' ∨ c = 'E' then
      match cs with
      | '+' :: cs => takeExponentDigits false cs
      | '-' :: cs => takeExponentDigits true cs
      | cs => takeExponentDigits false cs
    else some (none, c :: cs)
  | [] => some (none, [])

/-- A numeral without its sign: no zero stands before another digit. -/
def takeNumeral (negative : Bool) (cs : List Char) : Option (Numeral × List Char) :=
  match takeDigits cs with
  | ([], _) => none
  | (0 :: _ :: _, _) => none
  | (whole, rest) => do
    let (fraction, rest) ← takeFraction rest
    let (exponent, rest) ← takeExponent rest
    return (⟨negative, whole, fraction, exponent⟩, rest)

def hexDigit? (c : Char) : Option Nat :=
  if '0' ≤ c ∧ c ≤ '9' then some (c.toNat - '0'.toNat)
  else if 'a' ≤ c ∧ c ≤ 'f' then some (c.toNat - 'a'.toNat + 10)
  else if 'A' ≤ c ∧ c ≤ 'F' then some (c.toNat - 'A'.toNat + 10)
  else none

def takeHex4 : List Char → Option (Nat × List Char)
  | a :: b :: c :: d :: rest => do
    let a ← hexDigit? a
    let b ← hexDigit? b
    let c ← hexDigit? c
    let d ← hexDigit? d
    return (((a * 16 + b) * 16 + c) * 16 + d, rest)
  | _ => none

def isHighSurrogate (n : Nat) : Bool := 0xD800 ≤ n ∧ n < 0xDC00

def isLowSurrogate (n : Nat) : Bool := 0xDC00 ≤ n ∧ n < 0xE000

/-- The units of a quoted text after its opening quote: characters, and the numbers of `\u`
escapes, which may be halves of a pair. -/
def takeUnits (fuel : Nat) (cs : List Char) : Option (List (Char ⊕ Nat) × List Char) :=
  match fuel, cs with
  | 0, _ => none
  | _, [] => none
  | _, '"' :: rest => some ([], rest)
  | fuel + 1, '\\' :: 'u' :: rest => do
    let (n, rest) ← takeHex4 rest
    let (us, rest) ← takeUnits fuel rest
    return (.inr n :: us, rest)
  | fuel + 1, '\\' :: c :: rest => do
    let c ← match c with
      | '"' => some '"'
      | '\\' => some '\\'
      | '/' => some '/'
      | 'b' => some '\x08'
      | 'f' => some '\x0c'
      | 'n' => some '\n'
      | 'r' => some '\r'
      | 't' => some '\t'
      | _ => none
    let (us, rest) ← takeUnits fuel rest
    return (.inl c :: us, rest)
  | _, '\\' :: [] => none
  | fuel + 1, c :: rest =>
    if c.toNat < 0x20 then none
    else do
      let (us, rest) ← takeUnits fuel rest
      return (.inl c :: us, rest)

/-- Joins surrogate pairs; a half that stands alone makes the text unreadable. -/
def joinUnits : List (Char ⊕ Nat) → Option (List Char)
  | [] => some []
  | .inl c :: rest => (joinUnits rest).map (c :: ·)
  | .inr n :: .inr m :: rest =>
    if isHighSurrogate n then
      if isLowSurrogate m then
        (joinUnits rest).map (Char.ofNat (0x10000 + (n - 0xD800) * 0x400 + (m - 0xDC00)) :: ·)
      else none
    else if isLowSurrogate n then none
    else (joinUnits (.inr m :: rest)).map (Char.ofNat n :: ·)
  | .inr n :: rest =>
    if isHighSurrogate n ∨ isLowSurrogate n then none
    else (joinUnits rest).map (Char.ofNat n :: ·)

def takeText (fuel : Nat) (cs : List Char) : Option (Option String × List Char) := do
  let (units, rest) ← takeUnits fuel cs
  return ((joinUnits units).map String.ofList, rest)

/-- The object of members that were read; one unreadable key spoils it. -/
def ofMembers (members : List (Option String × Json)) : Json :=
  match members.mapM fun (k, j) => k.map (·, j) with
  | some ms => .object ms
  | none => .unreadable

mutual

def takeValue (fuel : Nat) (cs : List Char) : Option (Json × List Char) :=
  match fuel with
  | 0 => none
  | fuel + 1 =>
    match skipBlanks cs with
    | 'n' :: 'u' :: 'l' :: 'l' :: rest => some (.null, rest)
    | 't' :: 'r' :: 'u' :: 'e' :: rest => some (.bool true, rest)
    | 'f' :: 'a' :: 'l' :: 's' :: 'e' :: rest => some (.bool false, rest)
    | '"' :: rest => do
      let (s, rest) ← takeText (fuel + 1) rest
      return ((s.map Json.string).getD .unreadable, rest)
    | '[' :: rest =>
      match skipBlanks rest with
      | ']' :: rest => some (.array [], rest)
      | rest => do
        let (items, rest) ← takeItems fuel rest
        return (.array items, rest)
    | '{' :: rest =>
      match skipBlanks rest with
      | '}' :: rest => some (.object [], rest)
      | rest => do
        let (members, rest) ← takeMembers fuel rest
        return (ofMembers members, rest)
    | '-' :: rest => do
      let (n, rest) ← takeNumeral true rest
      return ((n.number?.map Json.number).getD .unreadable, rest)
    | rest => do
      let (n, rest) ← takeNumeral false rest
      return ((n.number?.map Json.number).getD .unreadable, rest)

def takeItems (fuel : Nat) (cs : List Char) : Option (List Json × List Char) :=
  match fuel with
  | 0 => none
  | fuel + 1 => do
    let (item, rest) ← takeValue fuel cs
    match skipBlanks rest with
    | ',' :: rest =>
      let (items, rest) ← takeItems fuel rest
      return (item :: items, rest)
    | ']' :: rest => return ([item], rest)
    | _ => none

def takeMembers (fuel : Nat) (cs : List Char) :
    Option (List (Option String × Json) × List Char) :=
  match fuel with
  | 0 => none
  | fuel + 1 =>
    match skipBlanks cs with
    | '"' :: rest => do
      let (key, rest) ← takeText (fuel + 1) rest
      match skipBlanks rest with
      | ':' :: rest =>
        let (value, rest) ← takeValue fuel rest
        match skipBlanks rest with
        | ',' :: rest =>
          let (members, rest) ← takeMembers fuel rest
          return ((key, value) :: members, rest)
        | '}' :: rest => return ([(key, value)], rest)
        | _ => none
      | _ => none
    | _ => none

end

/-- The tree of a text that holds one JSON value and blanks around it. -/
def read (text : String) : Option Json := do
  let cs := text.toList
  let (value, rest) ← takeValue (cs.length + 1) cs
  if (skipBlanks rest).isEmpty then some value else none

end Json

end DocumentSchema

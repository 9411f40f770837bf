import DocumentSchema.Json.Basic
import DocumentSchema.Instant

/-!
# Comparing stored values

Numbers are compared as the doubles they denote, texts of a date field by their
instants and other texts by their characters. Arrays are equal element by
element; objects are equal member by member without any of these rules, so that
inside an object a number also has to be of the same kind.
-/
namespace DocumentSchema

namespace Number

/-- Equality of doubles; the two zeros are equal. -/
def equals (a b : Number) : Bool := a.toDouble.key = b.toDouble.key

def same : Number → Number → Bool
  | int a, int b => a = b
  | double a, double b => a.key = b.key
  | _, _ => false

end Number

namespace Value

mutual

def same : Value → Value → Bool
  | .null, .null => true
  | .bool a, .bool b => a = b
  | .number a, .number b => a.same b
  | .string a, .string b => a = b
  | .array xs, .array ys => sameItems xs ys
  | .object xs, .object ys => sameMembers xs ys
  | _, _ => false

def sameItems : List Value → List Value → Bool
  | [], [] => true
  | x :: xs, y :: ys => x.same y && sameItems xs ys
  | _, _ => false

def sameMembers : List (String × Value) → List (String × Value) → Bool
  | [], [] => true
  | (k, x) :: xs, (l, y) :: ys => k = l && x.same y && sameMembers xs ys
  | _, _ => false

end

/-- Texts of a date field are equal when they denote the same instant; texts that denote none are
compared as they are. -/
def equalTexts (date : Bool) (a b : String) : Bool :=
  if date then
    match Instant.parse a, Instant.parse b with
    | some s, some t => s = t
    | _, _ => a = b
  else a = b

mutual

/-- Equality of a stored value and an expected one. -/
def equals (date : Bool) : Value → Value → Bool
  | .number a, .number b => a.equals b
  | .string a, .string b => equalTexts date a b
  | .array xs, .array ys => equalItems date xs ys
  | a, b => a.same b

def equalItems (date : Bool) : List Value → List Value → Bool
  | [], [] => true
  | x :: xs, y :: ys => equals date x y && equalItems date xs ys
  | _, _ => false

end

/-- The order of two numbers or of two texts; nothing else is ordered. -/
def compare (date : Bool) : Value → Value → Option Ordering
  | .number a, .number b => some (compareOfLessAndEq a.toDouble.key b.toDouble.key)
  | .string a, .string b =>
    if date then
      match Instant.parse a, Instant.parse b with
      | some s, some t => some (compareOfLessAndEq s.nanoseconds t.nanoseconds)
      | _, _ => none
    else some (compareOfLessAndEq a b)
  | _, _ => none

end Value

inductive Comparison
  | lt
  | lte
  | gt
  | gte
  deriving DecidableEq, Repr

def Comparison.accepts : Comparison → Ordering → Bool
  | lt, o => o = .lt
  | lte, o => o ≠ .gt
  | gt, o => o = .gt
  | gte, o => o ≠ .lt

structure Bound where
  comparison : Comparison
  value : Value
  date : Bool

def Bound.holds (b : Bound) (actual : Value) : Bool :=
  match Value.compare b.date actual b.value with
  | some o => b.comparison.accepts o
  | none => false

end DocumentSchema

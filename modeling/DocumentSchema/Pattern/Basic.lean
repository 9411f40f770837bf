import DocumentSchema.Pattern.CharSet

/-!
# Patterns

A pattern whose flags and properties have been given their meaning. Greed has
no part in it, since only whether there is a match is ever asked.
-/
namespace DocumentSchema

namespace Pattern

inductive WordEdge
  | boundary
  | notBoundary
  | start
  | stop
  | startHalf
  | stopHalf
  deriving DecidableEq, Repr

/-- A condition on the place between two characters. Words are those of Unicode or of ASCII. -/
inductive Look
  | textStart
  | textEnd
  | lineStart
  | lineEnd
  | crlfStart
  | crlfEnd
  | word (edge : WordEdge) (unicode : Bool)
  deriving DecidableEq, Repr

end Pattern

inductive Pattern
  | empty
  | oneOf (chars : CharSet)
  | look (condition : Pattern.Look)
  | iterate (p : Pattern) (least : Nat) (most : Option Nat)
  | capture (p : Pattern)
  | concat (ps : List Pattern)
  | either (ps : List Pattern)

namespace Pattern

mutual

def isZeroWidth : Pattern → Bool
  | .empty => true
  | .oneOf _ => false
  | .look _ => true
  | .iterate p _ _ => p.isZeroWidth
  | .capture p => p.isZeroWidth
  | .concat ps => allZeroWidth ps
  | .either ps => allZeroWidth ps

def allZeroWidth : List Pattern → Bool
  | [] => true
  | p :: rest => p.isZeroWidth && allZeroWidth rest

end

/-- Repeats a pattern. What has no width is repeated at most once, which changes nothing about
where it matches. -/
def repeated (p : Pattern) (least : Nat) (most : Option Nat) : Pattern :=
  let (least, most) := if p.isZeroWidth then
      (min least 1, some (match most with
        | some n => min n 1
        | none => 1))
    else (least, most)
  if most = some 0 then .empty
  else if least = 1 ∧ most = some 1 then p
  else .iterate p least most

def isSingleton : Pattern → Bool
  | .oneOf s => s.singleton?.isSome
  | _ => false

def ranges? : Pattern → Option (List (Nat × Nat))
  | .oneOf s => some s.ranges
  | _ => none

/-- The union of patterns that are sets. -/
def unionOfSets? (ps : List Pattern) : Option CharSet :=
  (ps.mapM ranges?).map fun rs => CharSet.ofRanges rs.flatten

/-- Alternatives that are all single characters, or all larger sets, are one set. -/
def alternatives (ps : List Pattern) : Pattern :=
  match unionOfSets? ps with
  | some s =>
    if ps.all isSingleton || ps.all (fun p => !p.isSingleton) then .oneOf s else .either ps
  | none => .either ps

end Pattern

end DocumentSchema

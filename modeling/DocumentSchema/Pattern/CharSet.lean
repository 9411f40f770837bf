/-!
# Sets of characters

A set of characters is a list of code point ranges, ascending and with gaps
between them. Surrogates are code points but never characters, so a range may
run across them.
-/
namespace DocumentSchema

structure CharSet where
  ranges : List (Nat × Nat)
  deriving DecidableEq, Repr

namespace CharSet

def maxCodePoint : Nat := 0x10FFFF

def empty : CharSet := ⟨[]⟩

def all : CharSet := ⟨[(0, maxCodePoint)]⟩

/-- Joins ranges that touch; the ranges come in ascending order. -/
def joinRanges (ranges : List (Nat × Nat)) : List (Nat × Nat) :=
  (ranges.foldl (fun joined (lo, hi) =>
    match joined with
    | [] => [(lo, hi)]
    | (a, b) :: rest =>
      if lo ≤ b + 1 then (a, max b hi) :: rest else (lo, hi) :: (a, b) :: rest) []).reverse

/-- The set of ranges in any order, which may overlap. -/
def ofRanges (ranges : List (Nat × Nat)) : CharSet :=
  ⟨joinRanges (ranges.mergeSort fun a b => a.1 ≤ b.1)⟩

def singleton (c : Char) : CharSet := ⟨[(c.toNat, c.toNat)]⟩

def contains (s : CharSet) (c : Char) : Bool :=
  s.ranges.any fun (lo, hi) => lo ≤ c.toNat && c.toNat ≤ hi

def isEmpty (s : CharSet) : Bool := s.ranges.isEmpty

def isAscii (s : CharSet) : Bool := s.ranges.all fun r => r.2 < 128

def singleton? (s : CharSet) : Option Nat :=
  match s.ranges with
  | [(lo, hi)] => if lo = hi then some lo else none
  | _ => none

def union (s t : CharSet) : CharSet := ofRanges (s.ranges ++ t.ranges)

/-- The gaps between ranges, from the code point `start` on. -/
def gaps (start : Nat) : List (Nat × Nat) → List (Nat × Nat)
  | [] => if start ≤ maxCodePoint then [(start, maxCodePoint)] else []
  | (lo, hi) :: rest =>
    if start < lo then (start, lo - 1) :: gaps (hi + 1) rest else gaps (hi + 1) rest

def complement (s : CharSet) : CharSet := ⟨gaps 0 s.ranges⟩

def inter (s t : CharSet) : CharSet := (s.complement.union t.complement).complement

def difference (s t : CharSet) : CharSet := s.inter t.complement

def symmetricDifference (s t : CharSet) : CharSet := (s.difference t).union (t.difference s)

end CharSet

end DocumentSchema

import DocumentSchema.Pattern.Basic

/-!
# The size of a pattern

A pattern is refused when the automaton for it would be too large. The size is
an estimate in bytes: every state has a fixed cost, and so has every transition
of a state with several. Characters are matched by the bytes of their UTF-8
form, and repetitions are unrolled. Two automata are made, one for each
direction of reading, and each of them has to stay within the limit.
-/
namespace DocumentSchema

namespace Pattern

structure Size where
  forward : Nat
  backward : Nat

namespace Size

def zero : Size := ⟨0, 0⟩

def add (a b : Size) : Size := ⟨a.forward + b.forward, a.backward + b.backward⟩

def scale (n : Nat) (a : Size) : Size := ⟨n * a.forward, n * a.backward⟩

def both (n : Nat) : Size := ⟨n, n⟩

end Size

def stateSize : Nat := 32

def transitionSize : Nat := 8

def alternateSize : Nat := 4

def branchSize (n : Nat) : Nat := stateSize + n * alternateSize

def utf8Bytes (n : Nat) : List Nat :=
  if n < 0x80 then [n]
  else if n < 0x800 then [0xC0 + n / 0x40, 0x80 + n % 0x40]
  else if n < 0x10000 then [0xE0 + n / 0x1000, 0x80 + n / 0x40 % 0x40, 0x80 + n % 0x40]
  else [0xF0 + n / 0x40000, 0x80 + n / 0x1000 % 0x40, 0x80 + n / 0x40 % 0x40, 0x80 + n % 0x40]

/-- The first place at which a range has to be cut so that the bytes of its ends bound the bytes
of everything between: where surrogates lie, where the number of bytes changes, and where a block
of continuation bytes is not complete. -/
def cut? (lo hi : Nat) : Option (List (Nat × Nat)) :=
  if lo < 0xE000 ∧ 0xD7FF < hi then some [(lo, 0xD7FF), (0xE000, hi)]
  else
    match [0x7F, 0x7FF, 0xFFFF].find? fun m => lo ≤ m ∧ m < hi with
    | some m => some [(lo, m), (m + 1, hi)]
    | none =>
      if hi < 0x80 then none
      else
        [0x40, 0x1000, 0x40000].findSome? fun block =>
          if lo / block = hi / block then none
          else if lo % block ≠ 0 then
            some [(lo, lo / block * block + block - 1), (lo / block * block + block, hi)]
          else if hi % block ≠ block - 1 then
            some [(lo, hi / block * block - 1), (hi / block * block, hi)]
          else none

/-- Cuts a range until every piece is bounded by the bytes of its ends. -/
def pieces : Nat → Nat × Nat → List (Nat × Nat)
  | 0, r => [r]
  | fuel + 1, (lo, hi) =>
    if hi < lo then []
    else
      match cut? lo hi with
      | some parts => parts.flatMap (pieces fuel)
      | none => [(lo, hi)]

/-- The sequences of byte ranges that the characters of a set have. -/
def byteSequences (s : CharSet) : List (List (Nat × Nat)) :=
  (s.ranges.flatMap (pieces 64)).map fun (lo, hi) => (utf8Bytes lo).zip (utf8Bytes hi)

/-- Collects neighbours with the same first range. -/
def groupByHead (sequences : List (List (Nat × Nat))) :
    List ((Nat × Nat) × List (List (Nat × Nat))) :=
  (sequences.foldl (fun groups s =>
    match s, groups with
    | [], _ => groups
    | r :: tail, (q, tails) :: rest =>
      if q = r then (q, tail :: tails) :: rest else (r, [tail]) :: groups
    | r :: tail, [] => [(r, [tail])]) []).reverse.map fun (r, tails) => (r, tails.reverse)

/-- A text that tells the states for different sets of sequences apart, and the texts of all
states below it with their numbers of transitions. -/
def states : Nat → List (List (Nat × Nat)) → String × List (String × Nat)
  | 0, _ => ("", [])
  | fuel + 1, sequences =>
    let groups := groupByHead sequences
    if groups.isEmpty then ("", [])
    else
      let children := groups.map fun (r, tails) => (r, states fuel tails)
      let key := "(" ++ String.join (children.map fun ((lo, hi), (k, _)) =>
        toString lo ++ "-" ++ toString hi ++ k) ++ ")"
      (key, (key, groups.length) :: children.flatMap fun (_, (_, below)) => below)

def distinct (named : List (String × Nat)) : List Nat :=
  ((named.mergeSort fun a b => a.1 ≤ b.1).foldl (fun (last, kept) (name, n) =>
    if some name = last then (last, kept) else (some name, n :: kept))
    ((none : Option String), ([] : List Nat))).2

def prefixCount : Nat → List (List (Nat × Nat)) → Nat
  | 0, _ => 0
  | fuel + 1, sequences =>
    let groups := groupByHead sequences
    groups.foldl (fun n (_, tails) => n + 1 + prefixCount fuel tails) 0

/-- A set of ASCII characters takes one state. Other sets share the ends of their sequences when
they are read forwards, and the beginnings when they are read backwards. -/
def setSize (s : CharSet) : Size :=
  match s.singleton? with
  | some n => .both ((utf8Bytes n).length * stateSize)
  | none =>
    if s.isAscii then .both (2 * stateSize + s.ranges.length * transitionSize)
    else
      let sequences := byteSequences s
      let kept := distinct (states 5 sequences).2
      ⟨kept.foldl (fun total n => total + stateSize + n * transitionSize) stateSize,
        branchSize sequences.length + stateSize + prefixCount 5 sequences * stateSize⟩

mutual

def isNonempty : Pattern → Bool
  | .oneOf s => !s.isEmpty
  | .iterate p least _ => 0 < least && p.isNonempty
  | .capture p => p.isNonempty
  | .concat ps => anyNonempty ps
  | .either ps => allNonempty ps
  | _ => false

def anyNonempty : List Pattern → Bool
  | [] => false
  | p :: rest => p.isNonempty || anyNonempty rest

def allNonempty : List Pattern → Bool
  | [] => true
  | p :: rest => p.isNonempty && allNonempty rest

end

def iterateSize (one : Size) (nonempty : Bool) (least : Nat) (most : Option Nat) : Size :=
  match most with
  | some n =>
    if n = least then if n = 0 then .both stateSize else one.scale n
    else if least = 0 ∧ n = 1 then one.add (.both (branchSize 2 + stateSize))
    else
      ((one.scale n).add (.both ((n - least) * branchSize 2 + stateSize))).add
        (.both (if least = 0 then stateSize else 0))
  | none =>
    match least with
    | 0 =>
      if nonempty then one.add (.both (branchSize 1))
      else one.add (.both (2 * branchSize 2 + stateSize))
    | n + 1 => (one.scale (n + 1)).add (.both (branchSize 1))

mutual

def size : Pattern → Size
  | .empty => .both stateSize
  | .oneOf s => setSize s
  | .look _ => .both stateSize
  | .iterate p least most => iterateSize p.size p.isNonempty least most
  | .capture p => p.size.add ⟨2 * stateSize, 0⟩
  | .concat ps => if ps.isEmpty then .both stateSize else totalSize ps
  | .either ps => (totalSize ps).add (.both (branchSize ps.length + stateSize))

def totalSize : List Pattern → Size
  | [] => .zero
  | p :: rest => p.size.add (totalSize rest)

end

/-- What every automaton has besides the states of its pattern. -/
def fixedSize : Size := ⟨3 * stateSize + 100, stateSize + 100⟩

def sizeLimit : Nat := 10 * 1024 * 1024

def fits (p : Pattern) : Bool :=
  let total := p.size.add fixedSize
  total.forward ≤ sizeLimit && total.backward ≤ sizeLimit

end Pattern

end DocumentSchema

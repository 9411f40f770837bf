import DocumentSchema.Pattern.Basic
import DocumentSchema.Pattern.Property

/-!
# Searching a text for a pattern

The places between the characters of a text are numbered from 0, and a set of
places is a number with a bit for each of them. A pattern takes the set of
places where it starts to the set of places where it may end. Repetitions are
followed until the set no longer changes, for which as many rounds as there are
places are enough, so a search needs no backtracking and always ends.
-/
namespace DocumentSchema

namespace Pattern

/-- A pattern with its sets and conditions worked out for one text: `move` goes over a character
and `check` stays where it is, both from the places of a set. -/
inductive Plan
  | move (places : Nat)
  | check (places : Nat)
  | iterate (p : Plan) (least : Nat) (most : Option Nat)
  | concat (ps : List Plan)
  | either (ps : List Plan)

def isWordChar (unicode : Bool) : Option Char → Bool
  | none => false
  | some c => if unicode then Property.word.contains c else c.isAlphanum || c = '_'

namespace Look

/-- Whether the condition holds between two neighbours, either of which may be missing. -/
def holds (before after : Option Char) : Look → Bool
  | .textStart => before.isNone
  | .textEnd => after.isNone
  | .lineStart => before.isNone || before = some '\n'
  | .lineEnd => after.isNone || after = some '\n'
  | .crlfStart =>
    before.isNone || before = some '\n' || (before = some '\r' && after ≠ some '\n')
  | .crlfEnd => after.isNone || after = some '\r' || (after = some '\n' && before ≠ some '\r')
  | .word edge unicode =>
    let b := isWordChar unicode before
    let a := isWordChar unicode after
    match edge with
    | .boundary => b != a
    | .notBoundary => b == a
    | .start => !b && a
    | .stop => b && !a
    | .startHalf => !b
    | .stopHalf => !a

end Look

/-- The set of places at which a list of answers says yes. -/
def places (answers : List Bool) : Nat :=
  answers.foldr (fun b n => 2 * n + b.toNat) 0

def neighbours (before : Option Char) : List Char → List (Option Char × Option Char)
  | [] => [(before, none)]
  | c :: cs => (before, some c) :: neighbours (some c) cs

mutual

def plan (text : List Char) : Pattern → Plan
  | .empty => .concat []
  | .oneOf s => .move (places (text.map s.contains))
  | .look condition =>
    .check (places ((neighbours none text).map fun (b, a) => condition.holds b a))
  | .iterate p least most => .iterate (p.plan text) least most
  | .capture p => p.plan text
  | .concat ps => .concat (plans text ps)
  | .either ps => .either (plans text ps)

def plans (text : List Char) : List Pattern → List Plan
  | [] => []
  | p :: rest => p.plan text :: plans text rest

end

/-- Applies a step `count` times, stopping early where it changes nothing. -/
def power (step : Nat → Nat) : Nat → Nat → Nat
  | 0, s => s
  | count + 1, s =>
    let t := step s
    if t = s then s else power step count t

/-- Adds what up to `count` steps reach, stopping early where nothing is added. -/
def closure (step : Nat → Nat) : Nat → Nat → Nat
  | 0, s => s
  | count + 1, s =>
    let t := s ||| step s
    if t = s then s else closure step count t

namespace Plan

mutual

/-- The places where a plan may end when it starts at those of a set; `bound` is the number of
places. -/
def run (bound : Nat) : Plan → Nat → Nat
  | .move places, s => (s &&& places) <<< 1
  | .check places, s => s &&& places
  | .iterate p least most, s =>
    let step := fun t => p.run bound t
    let t := power step (min least bound) s
    match most with
    | none => closure step bound t
    | some n => closure step (min (n - least) bound) t
  | .concat ps, s => runAll bound ps s
  | .either ps, s => runAny bound ps s

def runAll (bound : Nat) : List Plan → Nat → Nat
  | [], s => s
  | p :: rest, s => runAll bound rest (p.run bound s)

def runAny (bound : Nat) : List Plan → Nat → Nat
  | [], _ => 0
  | p :: rest, s => p.run bound s ||| runAny bound rest s

end

end Plan

def matchesIn (p : Pattern) (text : String) : Bool :=
  let cs := text.toList
  let bound := cs.length + 1
  (p.plan cs).run bound ((1 <<< bound) - 1) ≠ 0

end Pattern

end DocumentSchema

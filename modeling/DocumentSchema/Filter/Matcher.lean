import DocumentSchema.Filter.Comparison
import DocumentSchema.Pattern.Search

/-!
# Matchers

A matcher is a conjunction: tests of fields, matchers for embedded documents,
and alternatives of which one has to match when there are any. A field that is
missing or null passes no test but inequality, and only objects match.
-/
namespace DocumentSchema

inductive TextMode
  | contains
  | startsWith
  | endsWith
  deriving DecidableEq, Repr

/-- Whether a text stands somewhere in another. -/
def occursIn (needle : List Char) : List Char → Bool
  | [] => needle.isEmpty
  | c :: cs => needle.isPrefixOf (c :: cs) || occursIn needle cs

def TextMode.accepts (mode : TextMode) (text needle : List Char) : Bool :=
  match mode with
  | contains => occursIn needle text
  | startsWith => needle.isPrefixOf text
  | endsWith => needle.isSuffixOf text

inductive Test
  | equals (expected : Value) (date negated : Bool)
  | oneOf (candidates : List Value) (date : Bool)
  | text (mode : TextMode) (needle : String)
  | pattern (p : Pattern)
  | containsElement (element : Value)
  | containsAny (candidates : List Value)
  | compare (bound : Bound)
  | elementMatch (bounds : List Bound)
  | count (size : Nat)

namespace Value

def elements : Value → List Value
  | .array items => items
  | _ => []

/-- Whether a predicate holds of an element of an array, or of a value that is no array. -/
def anyValue (accept : Value → Bool) : Value → Bool
  | .array items => items.any accept
  | v => accept v

def anyText (accept : String → Bool) : Value → Bool :=
  anyValue fun
    | .string s => accept s
    | _ => false

/-- The value stored under a name, unless it is missing or null. -/
def stored? (name : String) (members : List (String × Value)) : Option Value :=
  (member? name members).filter fun v => !v.isNull

end Value

namespace Test

def holds (actual : Value) : Test → Bool
  | equals expected date negated => actual.equals date expected != negated
  | oneOf candidates date => candidates.any fun c => actual.equals date c
  | text mode needle => actual.anyText fun s => mode.accepts s.toList needle.toList
  | pattern p => actual.anyText p.matchesIn
  | containsElement element => actual.elements.any fun v => v.equals false element
  | containsAny candidates =>
    actual.elements.any fun v => candidates.any fun c => v.equals false c
  | compare bound => actual.anyValue bound.holds
  | elementMatch bounds => actual.elements.any fun v => bounds.all fun b => b.holds v
  | count size =>
    match actual with
    | .array items => items.length = size
    | _ => false

/-- Only inequality holds of nothing. -/
def holdsOfNothing : Test → Bool
  | equals _ _ negated => negated
  | _ => false

def holdsOf (stored : Option Value) (t : Test) : Bool :=
  match stored with
  | some v => t.holds v
  | none => t.holdsOfNothing

end Test

inductive Matcher
  | mk (tests : List (String × Test)) (embedded : List (String × Matcher))
    (alternatives : List Matcher)

namespace Matcher

def all : Matcher := ⟨[], [], []⟩

instance : Inhabited Matcher := ⟨all⟩

def isEmpty : Matcher → Bool
  | ⟨tests, embedded, alternatives⟩ =>
    tests.isEmpty && embedded.isEmpty && alternatives.isEmpty

mutual

def accepts : Matcher → Value → Bool
  | ⟨tests, embedded, alternatives⟩, document =>
    match document with
    | .object members =>
      tests.all (fun (field, t) => t.holdsOf (Value.stored? field members)) &&
        acceptsEmbedded embedded members &&
        (alternatives.isEmpty || acceptsSome alternatives document)
    | _ => false

def acceptsEmbedded : List (String × Matcher) → List (String × Value) → Bool
  | [], _ => true
  | (field, m) :: rest, members =>
    (match Value.stored? field members with
      | some v => v.anyValue m.accepts
      | none => false) && acceptsEmbedded rest members

def acceptsSome : List Matcher → Value → Bool
  | [], _ => false
  | m :: rest, document => m.accepts document || acceptsSome rest document

end

theorem acceptsSome_eq_any (ms : List Matcher) (document : Value) :
    acceptsSome ms document = ms.any fun m => m.accepts document := by
  induction ms with
  | nil => simp [acceptsSome]
  | cons m rest ih => simp [acceptsSome, ih]

theorem acceptsEmbedded_eq_all (embedded : List (String × Matcher))
    (members : List (String × Value)) :
    acceptsEmbedded embedded members = embedded.all fun e =>
      match Value.stored? e.1 members with
      | some v => v.anyValue e.2.accepts
      | none => false := by
  induction embedded with
  | nil => simp [acceptsEmbedded]
  | cons e rest ih =>
    rw [acceptsEmbedded, ih, List.all_cons]

end Matcher

end DocumentSchema

import DocumentSchema.Filter
import Mathlib.Logic.Basic

/-!
# Joined parts

The parts of arguments are joined into one matcher. Tests and embedded documents
count one by one, bounds of elements together with those of the same field, and
alternatives all together.
-/
namespace DocumentSchema

namespace Filter

namespace Part

/-- What a part asks of an object on its own. -/
def Passes (members : List (String × Value)) : Part → Prop
  | .test field t => t.holdsOf (Value.stored? field members) = true
  | .embedded field m => ∃ v, Value.stored? field members = some v ∧ v.anyValue m.accepts = true
  | _ => True

def test? : Part → Option (String × Test)
  | .test field t => some (field, t)
  | _ => none

def elementBound? : Part → Option (String × Bound)
  | .elementBound field b => some (field, b)
  | _ => none

def embedded? : Part → Option (String × Matcher)
  | .embedded field m => some (field, m)
  | _ => none

def matchers : Part → List Matcher
  | .alternatives ms => ms
  | _ => []

theorem passes_iff {members : List (String × Value)} {p : Part} :
    p.Passes members ↔
      (∀ x, p.test? = some x → x.2.holdsOf (Value.stored? x.1 members) = true) ∧
        ∀ x, p.embedded? = some x →
          ∃ v, Value.stored? x.1 members = some v ∧ v.anyValue x.2.accepts = true := by
  cases p <;> simp [Passes, test?, embedded?]

end Part

theorem ofParts_eq (parts : List Part) :
    ofParts parts =
      ⟨parts.filterMap Part.test? ++ groupBounds (parts.filterMap Part.elementBound?),
        parts.filterMap Part.embedded?, parts.flatMap Part.matchers⟩ := rfl

def boundsOf (field : String) (parts : List Part) : List Bound :=
  ((parts.filterMap Part.elementBound?).filter fun b => b.1 = field).map Prod.snd

theorem mem_boundsOf {field : String} {parts : List Part} {b : Bound} :
    b ∈ boundsOf field parts ↔ ∃ p ∈ parts, p.elementBound? = some (field, b) := by
  simp [boundsOf]

theorem boundsOf_ne_nil {field : String} {parts : List Part} :
    boundsOf field parts ≠ [] ↔ ∃ p ∈ parts, ∃ b, p.elementBound? = some (field, b) := by
  rw [ne_eq, List.eq_nil_iff_forall_not_mem]
  simp only [mem_boundsOf, not_forall, not_not]
  constructor
  · rintro ⟨b, p, hp, hb⟩
    exact ⟨p, hp, b, hb⟩
  · rintro ⟨p, hp, b, hb⟩
    exact ⟨b, p, hp, hb⟩

theorem boundsOf_cons (field : String) (p : Part) (parts : List Part) :
    boundsOf field (p :: parts) = boundsOf field [p] ++ boundsOf field parts := by
  rw [← List.singleton_append, boundsOf, List.filterMap_append, List.filter_append,
    List.map_append]
  rfl

theorem all_groupBounds {bounds : List (String × Bound)} {members : List (String × Value)} :
    (groupBounds bounds).all (fun x => x.2.holdsOf (Value.stored? x.1 members)) = true ↔
      ∀ field, (bounds.filter fun b => b.1 = field).map Prod.snd ≠ [] →
        (Test.elementMatch ((bounds.filter fun b => b.1 = field).map Prod.snd)).holdsOf
          (Value.stored? field members) = true := by
  have hmem (field : String) : field ∈ (bounds.map Prod.fst).eraseDups ↔
      (bounds.filter fun b => b.1 = field).map Prod.snd ≠ [] := by
    simp [List.mem_eraseDups, List.filter_eq_nil_iff]
  simp only [groupBounds, List.all_map, List.all_eq_true, Function.comp_apply, hmem]

theorem acceptsEmbedded_iff {embedded : List (String × Matcher)} {members : List (String × Value)} :
    Matcher.acceptsEmbedded embedded members = true ↔
      ∀ x ∈ embedded,
        ∃ v, Value.stored? x.1 members = some v ∧ v.anyValue x.2.accepts = true := by
  rw [Matcher.acceptsEmbedded_eq_all, List.all_eq_true]
  refine forall₂_congr fun x _ => ?_
  cases Value.stored? x.1 members <;> simp

/-- Joined parts accept an object that passes each of them, that has elements within the bounds of
every field, and that one of the alternatives accepts, if there are any. -/
theorem accepts_ofParts {parts : List Part} {members : List (String × Value)} :
    (ofParts parts).accepts (.object members) = true ↔
      (∀ p ∈ parts, p.Passes members) ∧
        (∀ field, boundsOf field parts ≠ [] →
          (Test.elementMatch (boundsOf field parts)).holdsOf
            (Value.stored? field members) = true) ∧
        (parts.flatMap Part.matchers ≠ [] →
          ∃ m ∈ parts.flatMap Part.matchers, m.accepts (.object members) = true) := by
  have halternatives (ms : List Matcher) :
      (ms.isEmpty || ms.any fun m => m.accepts (.object members)) = true ↔
        (ms ≠ [] → ∃ m ∈ ms, m.accepts (.object members) = true) := by
    cases ms <;> simp
  rw [ofParts_eq, Matcher.accepts, Matcher.acceptsSome_eq_any, Bool.and_eq_true, Bool.and_eq_true,
    List.all_append, Bool.and_eq_true, all_groupBounds, acceptsEmbedded_iff, halternatives]
  simp only [List.all_eq_true, List.mem_filterMap, forall_exists_index, and_imp,
    Part.passes_iff, boundsOf]
  constructor
  · rintro ⟨⟨⟨ht, hb⟩, he⟩, ha⟩
    exact ⟨fun p hp => ⟨fun x hx => ht x p hp hx, fun x hx => he x p hp hx⟩, hb, ha⟩
  · rintro ⟨hp, hb, ha⟩
    exact ⟨⟨⟨fun x p h hx => (hp p h).1 x hx, hb⟩, fun x p h hx => (hp p h).2 x hx⟩, ha⟩

theorem eq_object_of_accepts {m : Matcher} {d : Value} (h : m.accepts d = true) :
    ∃ members, d = .object members := by
  obtain ⟨tests, embedded, alternatives⟩ := m
  cases d with
  | object members => exact ⟨members, rfl⟩
  | _ => cases h

end Filter

end DocumentSchema

import DocumentSchema.Proofs.Filter.OwnArguments

/-!
# Arguments that test a field

An argument for a single field compiles for the values that its operator takes,
and then stands for one test of what a document stores under the field. Filters
with such an argument alone can be compared by comparing the tests.
-/
namespace DocumentSchema

namespace Value

def isObject : Value → Bool
  | .object _ => true
  | _ => false

/-- The value that a document stores under a field, unless it is missing or null. Only objects store
anything. -/
def storedIn? (field : String) : Value → Option Value
  | .object members => stored? field members
  | _ => none

end Value

/-- Whether a document is an object that passes a test of one of its fields. -/
def Test.PassedBy (t : Test) (field : String) (document : Value) : Prop :=
  document.isObject = true ∧ t.holdsOf (document.storedIn? field) = true

theorem Test.passedBy_iff {t : Test} (ht : t.holdsOfNothing = false) {field : String}
    {document : Value} :
    t.PassedBy field document ↔ ∃ x, document.storedIn? field = some x ∧ t.holds x = true := by
  cases document with
  | object members =>
    rw [PassedBy, Value.storedIn?]
    cases Value.stored? field members <;> simp [Value.isObject, holdsOf, ht]
  | _ => simp [PassedBy, Value.isObject, Value.storedIn?]

/-- Whether a value is one that an operator takes for a field of the descriptor. -/
def Descriptor.Takes (d : Descriptor) (type : FilterType) (v : Value) : Prop :=
  type.admits v = true ∧ (d.isDate = true → Filter.areDates v = true)

namespace Filter

/-- An argument on its own compiles under a condition, and then stands for a test of a field. -/
structure Tests (c : Catalog) (e : Entity) (argument : String × Value) (takes : Prop)
    (field : String) (t : Test) : Prop where
  compiles : (∃ m, compile c e.name [argument] = .ok m) ↔ takes
  accepts : ∀ m, compile c e.name [argument] = .ok m →
    ∀ document, m.accepts document = true ↔ t.PassedBy field document

theorem accepts_ofParts_tests {field : String} {tests : List Test} {document : Value} :
    (ofParts (tests.map (Part.test field))).accepts document = true ↔
      document.isObject = true ∧ ∀ t ∈ tests, t.PassedBy field document := by
  cases document with
  | object members =>
    have hmatchers : tests.flatMap (fun t => (Part.test field t).matchers) = [] :=
      List.flatMap_eq_nil_iff.mpr fun _ _ => rfl
    rw [accepts_ofParts, List.flatMap_map, hmatchers]
    simp [boundsOf, Part.Passes, Part.elementBound?, Test.PassedBy, Value.isObject, Value.storedIn?]
  | _ => simp [ofParts_eq, Matcher.accepts, Test.PassedBy, Value.isObject]

theorem accepts_ofParts_test {field : String} {t : Test} {document : Value} :
    (ofParts [.test field t]).accepts document = true ↔ t.PassedBy field document := by
  have htests : (ofParts ([t].map (Part.test field))).accepts document = true ↔
      document.isObject = true ∧ ∀ s ∈ [t], s.PassedBy field document := accepts_ofParts_tests
  rw [List.forall_mem_singleton] at htests
  exact htests.trans (and_iff_right_of_imp And.left)

theorem Tests.selects_iff {c : Catalog} {e : Entity} {argument : String × Value} {takes : Prop}
    {field : String} {t : Test} (h : Tests c e argument takes field t) {document : Value} :
    Selects c e [argument] document ↔ takes ∧ t.PassedBy field document := by
  constructor
  · rintro ⟨m, hm, ha⟩
    exact ⟨h.compiles.mp ⟨m, hm⟩, (h.accepts m hm document).mp ha⟩
  · rintro ⟨htakes, ht⟩
    obtain ⟨m, hm⟩ := h.compiles.mpr htakes
    exact ⟨m, hm, (h.accepts m hm document).mpr ht⟩

/-- Of an object a test decides by what the field stores. -/
theorem Tests.decides {c : Catalog} {e : Entity} {argument : String × Value} {takes : Prop}
    {field : String} {t : Test} (h : Tests c e argument takes field t) (htakes : takes)
    (members : List (String × Value)) :
    Decides c e [argument] (.object members)
      (t.holdsOf (Value.stored? field members) = true) := by
  obtain ⟨m, hm⟩ := h.compiles.mpr htakes
  refine ⟨m, hm, (h.accepts m hm _).trans ?_⟩
  exact and_iff_right rfl

section Operators

variable {c : Catalog} {e : Entity} {field : String} {d : Descriptor} {type : FilterType}
  {v : Value}

theorem tests_of_part (he : e ∈ c.entities) {op : FilterOp} (h : e.OwnsOperator field d op type)
    (hop : op ≠ .nested) (hv : v.isNull = false) {t : Test}
    (hpart : part (field ++ op.suffix) ⟨⟨field, op, type⟩, d⟩ v = .ok (.test field t)) :
    Tests c e (field ++ op.suffix, v) (d.Takes type v) field t := by
  have hargument := compileArgument_of_ownsOperator (c := c) h hop hv
  rw [hpart] at hargument
  have hcheck : check (field ++ op.suffix) ⟨⟨field, op, type⟩, d⟩ v = .ok () ↔ d.Takes type v :=
    check_eq_ok
  have hok {p : Part} : compileArgument c e (field ++ op.suffix) v = .ok p ↔
      d.Takes type v ∧ .test field t = p := by
    rw [hargument, Traversal.bind_eq_ok, ← hcheck]
    constructor
    · rintro ⟨⟨⟩, hc, hp⟩
      exact ⟨hc, Except.ok.inj hp⟩
    · rintro ⟨hc, rfl⟩
      exact ⟨(), hc, rfl⟩
  constructor
  · rw [compile_singleton_isOk he]
    simp only [hok, exists_and_left, exists_eq', and_true]
  · intro m hm document
    obtain ⟨p, hp⟩ := (compile_singleton_isOk he).mp ⟨m, hm⟩
    obtain ⟨-, rfl⟩ := hok.mp hp
    rw [compile_of_mem he, compileArguments, hp] at hm
    cases hm
    exact accepts_ofParts_test

theorem tests_eq (he : e ∈ c.entities) (h : e.OwnsOperator field d .eq type)
    (hv : v.isNull = false) :
    Tests c e (field, v) (d.Takes type v) field (.equals v d.isDate false) := by
  have htests := tests_of_part he h nofun hv (t := .equals v d.isDate false) rfl
  rwa [FilterOp.suffix, String.append_empty] at htests

theorem tests_ne (he : e ∈ c.entities) (h : e.OwnsOperator field d .ne type)
    (hv : v.isNull = false) :
    Tests c e (field ++ "_ne", v) (d.Takes type v) field (.equals v d.isDate true) :=
  tests_of_part he h nofun hv rfl

theorem tests_oneOf (he : e ∈ c.entities) (h : e.OwnsOperator field d .oneOf type)
    (hv : v.isNull = false) :
    Tests c e (field ++ "_in", v) (d.Takes type v) field (.oneOf v.elements d.isDate) :=
  tests_of_part he h nofun hv rfl

theorem tests_contains (he : e ∈ c.entities) {kind : ElementKind}
    (h : e.Owns field (.scalarArray kind))
    (htype : (Descriptor.scalarArray kind).operatorType? .contains = some type)
    (hv : v.isNull = false) :
    Tests c e (field ++ "_contains", v) ((Descriptor.scalarArray kind).Takes type v) field
      (.containsElement v) :=
  tests_of_part he (ownsOperator_of_owns h htype) nofun hv rfl

end Operators

end Filter

end DocumentSchema

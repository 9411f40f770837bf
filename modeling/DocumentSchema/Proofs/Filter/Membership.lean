import DocumentSchema.Proofs.Filter.FieldTests

/-!
# Membership

An argument may take a list of values: any of them is to be stored, or to be an
element of a stored array. Such a filter says no more than the filters for the
single values, so neither order nor repetition of the list has a meaning.
-/
namespace DocumentSchema

namespace Test

variable {field : String} {document : Value}

theorem passedBy_oneOf {vs : List Value} {date : Bool} :
    (oneOf vs date).PassedBy field document ↔
      ∃ v ∈ vs, (equals v date false).PassedBy field document := by
  rw [passedBy_iff rfl]
  constructor
  · rintro ⟨x, hx, h⟩
    obtain ⟨v, hv, h⟩ := List.any_eq_true.mp h
    exact ⟨v, hv, (passedBy_iff rfl).mpr ⟨x, hx, by rw [holds, h]; rfl⟩⟩
  · rintro ⟨v, hv, h⟩
    obtain ⟨x, hx, h⟩ := (passedBy_iff rfl).mp h
    exact ⟨x, hx, List.any_eq_true.mpr ⟨v, hv, by simpa [holds] using h⟩⟩

theorem passedBy_containsAny {vs : List Value} :
    (containsAny vs).PassedBy field document ↔
      ∃ v ∈ vs, (containsElement v).PassedBy field document := by
  rw [passedBy_iff rfl]
  constructor
  · rintro ⟨x, hx, h⟩
    obtain ⟨i, hi, h⟩ := List.any_eq_true.mp h
    obtain ⟨v, hv, h⟩ := List.any_eq_true.mp h
    exact ⟨v, hv, (passedBy_iff rfl).mpr ⟨x, hx, List.any_eq_true.mpr ⟨i, hi, h⟩⟩⟩
  · rintro ⟨v, hv, h⟩
    obtain ⟨x, hx, h⟩ := (passedBy_iff rfl).mp h
    obtain ⟨i, hi, h⟩ := List.any_eq_true.mp h
    exact ⟨x, hx, List.any_eq_true.mpr ⟨i, hi, List.any_eq_true.mpr ⟨v, hv, h⟩⟩⟩

end Test

namespace Descriptor

theorem eq_string_of_isDate {d : Descriptor} (hd : d.isDate = true) {type : FilterType}
    (h : d.operatorType? .eq = some type) : type = .string := by
  cases d with
  | date => exact (Option.some.inj h).symm
  | _ => cases hd

theorem takes_list {d : Descriptor} {type : FilterType} (h : d.isDate = true → type = .string)
    {vs : List Value} : d.Takes (.list type) (.array vs) ↔ ∀ v ∈ vs, d.Takes type v := by
  rw [Takes, FilterType.admits, List.all_eq_true]
  constructor
  · rintro ⟨htype, hdates⟩ v hv
    refine ⟨htype v hv, fun hd => ?_⟩
    have hdate := List.all_eq_true.mp (hdates hd) v hv
    cases v with
    | string s => exact hdate
    | _ => cases hdate
  · intro hvs
    refine ⟨fun v hv => (hvs v hv).1, fun hd => List.all_eq_true.mpr fun v hv => ?_⟩
    obtain ⟨htype, hdates⟩ := hvs v hv
    rw [h hd] at htype
    cases v with
    | string s => exact hdates hd
    | _ => cases htype

end Descriptor

namespace Filter

/-- The filter for a list of values stands for the filters for the single ones: it compiles when
each of them does, and accepts what one of them accepts. -/
structure IsDisjunction (c : Catalog) (e : Entity) (many one : String) (vs : List Value) :
    Prop where
  compiles : (∃ m, compile c e.name [(many, .array vs)] = .ok m) ↔
    ∀ v ∈ vs, ∃ n, compile c e.name [(one, v)] = .ok n
  accepts : ∀ m, compile c e.name [(many, .array vs)] = .ok m → ∀ document,
    m.accepts document = true ↔ ∃ v ∈ vs, Selects c e [(one, v)] document

section Disjunction

variable {c : Catalog} {e : Entity} {many one : String} {vs ws : List Value}

theorem isDisjunction_of_tests {takes : Value → Prop} {field : String} {t : Test}
    {single : Value → Test} (hmany : Tests c e (many, .array vs) (∀ v ∈ vs, takes v) field t)
    (hone : ∀ v ∈ vs, Tests c e (one, v) (takes v) field (single v))
    (ht : ∀ document, t.PassedBy field document ↔ ∃ v ∈ vs, (single v).PassedBy field document) :
    IsDisjunction c e many one vs := by
  constructor
  · rw [hmany.compiles]
    exact forall₂_congr fun v hv => (hone v hv).compiles.symm
  · intro m hm document
    have htakes := hmany.compiles.mp ⟨m, hm⟩
    rw [hmany.accepts m hm, ht]
    refine exists_congr fun v => and_congr_right fun hv => ?_
    rw [(hone v hv).selects_iff]
    exact (and_iff_right (htakes v hv)).symm

namespace IsDisjunction

theorem empty (h : IsDisjunction c e many one []) :
    ∃ m, compile c e.name [(many, .array [])] = .ok m ∧ ∀ document, m.accepts document = false := by
  obtain ⟨m, hm⟩ := h.compiles.mpr nofun
  refine ⟨m, hm, fun document => ?_⟩
  rw [Bool.eq_false_iff, ne_eq, h.accepts m hm]
  simp

theorem compiles_congr (h : IsDisjunction c e many one vs) (h' : IsDisjunction c e many one ws)
    (hset : ∀ v, v ∈ vs ↔ v ∈ ws) :
    (∃ m, compile c e.name [(many, .array vs)] = .ok m) ↔
      ∃ m, compile c e.name [(many, .array ws)] = .ok m := by
  rw [h.compiles, h'.compiles]
  simp only [hset]

theorem accepts_congr (h : IsDisjunction c e many one vs) (h' : IsDisjunction c e many one ws)
    (hset : ∀ v, v ∈ vs ↔ v ∈ ws) {m n : Matcher}
    (hm : compile c e.name [(many, .array vs)] = .ok m)
    (hn : compile c e.name [(many, .array ws)] = .ok n) (document : Value) :
    m.accepts document = n.accepts document := by
  rw [Bool.eq_iff_iff, h.accepts m hm, h'.accepts n hn]
  simp only [hset]

end IsDisjunction

end Disjunction

/-- Filters for lists of values stand for the filters for the single values, and depend on the set
of the values only. -/
structure IsMembership (c : Catalog) (e : Entity) (many one : String) : Prop where
  disjunction : ∀ vs : List Value, (∀ v ∈ vs, v.isNull = false) → IsDisjunction c e many one vs
  empty : ∃ m, compile c e.name [(many, .array [])] = .ok m ∧
    ∀ document, m.accepts document = false
  set : ∀ vs ws : List Value, (∀ v ∈ vs, v.isNull = false) → (∀ v, v ∈ vs ↔ v ∈ ws) →
    ((∃ m, compile c e.name [(many, .array vs)] = .ok m) ↔
        ∃ n, compile c e.name [(many, .array ws)] = .ok n) ∧
      ∀ m n, compile c e.name [(many, .array vs)] = .ok m →
        compile c e.name [(many, .array ws)] = .ok n → ∀ document,
          m.accepts document = n.accepts document

theorem isMembership_of_isDisjunction {c : Catalog} {e : Entity} {many one : String}
    (h : ∀ vs : List Value, (∀ v ∈ vs, v.isNull = false) → IsDisjunction c e many one vs) :
    IsMembership c e many one := by
  refine ⟨h, (h [] nofun).empty, fun vs ws hvs hset => ?_⟩
  have hws : ∀ v ∈ ws, v.isNull = false := fun v hv => hvs v ((hset v).mpr hv)
  refine ⟨(h vs hvs).compiles_congr (h ws hws) hset, fun m n hm hn => ?_⟩
  exact (h vs hvs).accepts_congr (h ws hws) hset hm hn

section Operators

variable {c : Catalog} {e : Entity} {field : String} {d : Descriptor}

theorem isDisjunction_oneOf (he : e ∈ c.entities) (h : e.Owns field d)
    (hd : (d.operatorType? .oneOf).isSome = true) {vs : List Value}
    (hvs : ∀ v ∈ vs, v.isNull = false) : IsDisjunction c e (field ++ "_in") field vs := by
  obtain ⟨list, hlist⟩ := Option.isSome_iff_exists.mp hd
  obtain ⟨type, rfl, htype⟩ := Descriptor.operatorType?_oneOf hlist
  have hmany := tests_oneOf he (ownsOperator_of_owns h hlist) (v := .array vs) rfl
  rw [Descriptor.takes_list fun hdate => Descriptor.eq_string_of_isDate hdate htype] at hmany
  refine isDisjunction_of_tests hmany (fun v hv => ?_) fun document => Test.passedBy_oneOf
  exact tests_eq he (ownsOperator_of_owns h htype) (hvs v hv)

theorem isDisjunction_containsAny (he : e ∈ c.entities) {kind : ElementKind}
    (h : e.Owns field (.scalarArray kind)) {vs : List Value} (hvs : ∀ v ∈ vs, v.isNull = false) :
    IsDisjunction c e (field ++ "_containsAny") (field ++ "_contains") vs := by
  obtain ⟨type, hlist, htype⟩ : ∃ type,
      (Descriptor.scalarArray kind).operatorType? .containsAny = some (.list type) ∧
        (Descriptor.scalarArray kind).operatorType? .contains = some type := by
    cases kind <;> exact ⟨_, rfl, rfl⟩
  have hmany : Tests c e (field ++ "_containsAny", .array vs)
      ((Descriptor.scalarArray kind).Takes (.list type) (.array vs)) field (.containsAny vs) :=
    tests_of_part he (ownsOperator_of_owns h hlist) nofun rfl rfl
  rw [Descriptor.takes_list fun hdate => by cases hdate] at hmany
  refine isDisjunction_of_tests hmany (fun v hv => ?_) fun document => Test.passedBy_containsAny
  exact tests_contains he h htype (hvs v hv)

/-- Operators for lists of values are disjunctions. What a list asks of a field, each of its values
asks on its own, and what it asks of the elements of a stored array, each value asks of them. -/
theorem list_operators_are_disjunctions (he : e ∈ c.entities) (h : e.Owns field d) :
    ((d.operatorType? .oneOf).isSome = true → IsMembership c e (field ++ "_in") field) ∧
      ∀ kind, d = .scalarArray kind →
        IsMembership c e (field ++ "_containsAny") (field ++ "_contains") := by
  constructor
  · intro hd
    exact isMembership_of_isDisjunction fun vs hvs => isDisjunction_oneOf he h hd hvs
  · rintro kind rfl
    exact isMembership_of_isDisjunction fun vs hvs => isDisjunction_containsAny he h hvs

end Operators

/-- Editions are the same as one of two lists, or have one of two elements; asking for an element
twice changes nothing. -/
theorem library_editions_membership :
    Entity.book ∈ Catalog.library.entities ∧
      Entity.book.Owns "editions" (.scalarArray .int) ∧
      IsDisjunction .library .book ("editions" ++ "_in") "editions"
        [.array [.number (.int 1), .number (.int 2)], .array []] ∧
      ∃ m n, compile .library "Book" [("editions" ++ "_containsAny",
            .array [.number (.int 2), .number (.int 1), .number (.int 2)])] = .ok m ∧
        compile .library "Book" [("editions" ++ "_containsAny",
            .array [.number (.int 1), .number (.int 2)])] = .ok n ∧
        ∀ document, m.accepts document = n.accepts document := by
  have he : Entity.book ∈ Catalog.library.entities := List.mem_cons_self
  obtain ⟨hmembers, helements⟩ := list_operators_are_disjunctions he owns_editions
  refine ⟨he, owns_editions, (hmembers rfl).disjunction _ (by simp [Value.isNull]), _, _, rfl, rfl,
    ?_⟩
  have hset : ∀ v : Value, v ∈ [.number (.int 2), .number (.int 1), .number (.int 2)] ↔
      v ∈ [.number (.int 1), .number (.int 2)] := by
    intro v
    simp only [List.mem_cons, List.not_mem_nil, or_false]
    tauto
  exact ((helements .int rfl).set _ _ (by simp [Value.isNull]) hset).2 _ _ rfl rfl

end Filter

end DocumentSchema

import DocumentSchema.Proofs.Collection

/-!
# Inequality

A field that can be asked for a value can be asked for any other value. Whatever
a document stores there, a wrong type or nothing at all, the two filters split
the objects of a collection between them.
-/
namespace DocumentSchema

/-- A field that can be asked for a value and for any other value, under names that no other field
generates. -/
structure Entity.TellsApart (e : Entity) (field : String) (d : Descriptor) : Prop where
  mem : (field, d) ∈ e.fields.entries
  eq : (d.operatorType? .eq).isSome = true
  ne : (d.operatorType? .ne).isSome = true
  ne_or : field ≠ Filter.orName
  own_eq : e.OwnsName field FilterOp.eq.suffix
  own_ne : e.OwnsName field FilterOp.ne.suffix

theorem Entity.TellsApart.operators {e : Entity} {field : String} {d : Descriptor}
    (h : e.TellsApart field d) :
    ∃ type, e.OwnsOperator field d .eq type ∧ e.OwnsOperator field d .ne type := by
  obtain ⟨type, heq⟩ := Option.isSome_iff_exists.mp h.eq
  have hne : d.operatorType? .ne = some type := by rw [Descriptor.operatorType?_ne, heq]
  refine ⟨type, ⟨h.mem, heq, h.own_eq, ?_⟩, h.mem, hne, h.own_ne, ?_⟩
  · exact Filter.append_suffix_ne_orName h.ne_or (by decide)
  · exact Filter.append_suffix_ne_orName h.ne_or (by decide)

theorem Test.passedBy_ne {v : Value} {date : Bool} {field : String} {document : Value} :
    (equals v date true).PassedBy field document ↔
      document.isObject = true ∧ ¬ (equals v date false).PassedBy field document := by
  unfold PassedBy
  cases document.storedIn? field with
  | none => simp [holdsOf, holdsOfNothing]
  | some x => cases hx : x.equals date v <;> simp [holdsOf, holds, hx]

namespace Filter

theorem storedIn?_of_null {field : String} {members : List (String × Value)}
    (h : Value.member? field members = none ∨ Value.member? field members = some .null) :
    (Value.object members).storedIn? field = none := by
  rcases h with h | h <;> simp [Value.storedIn?, Value.stored?, h, Value.isNull]

section Complement

variable {c : Catalog} {e : Entity} {field : String} {d : Descriptor} {v : Value} {m n : Matcher}

/-- The filter for any other value accepts exactly the objects that the filter for the value
rejects. -/
theorem accepts_ne (he : e ∈ c.entities) (h : e.TellsApart field d) (hv : v.isNull = false)
    (hm : compile c e.name [(field, v)] = .ok m)
    (hn : compile c e.name [(field ++ "_ne", v)] = .ok n) (document : Value) :
    n.accepts document = (document.isObject && !m.accepts document) := by
  obtain ⟨type, heq, hne⟩ := h.operators
  have hm := (tests_eq he heq hv).accepts m hm document
  have hn := (tests_ne he hne hv).accepts n hn document
  rw [Bool.eq_iff_iff, hn, Test.passedBy_ne, ← hm]
  simp

/-- Inequality is the complement of equality. The filter for any other value compiles when the one
for the value does. In a collection no document is found by both, and together they find its
objects: the other ones are found by neither, and those that store nothing under the field by the
filter for any other value. -/
theorem inequality_complements_equality (he : e ∈ c.entities) (h : e.TellsApart field d)
    (hv : v.isNull = false) :
    ((∃ m, compile c e.name [(field, v)] = .ok m) ↔
        ∃ n, compile c e.name [(field ++ "_ne", v)] = .ok n) ∧
      ∀ m n, compile c e.name [(field, v)] = .ok m →
        compile c e.name [(field ++ "_ne", v)] = .ok n →
          (∀ documents : List Value,
            (Collection.ofInserts e.name documents).documents = documents ∧
              (Collection.ofInserts e.name documents).SharedBy m n) ∧
          (∀ members : List (String × Value),
            Value.member? field members = none ∨ Value.member? field members = some .null →
              m.accepts (.object members) = false ∧ n.accepts (.object members) = true) ∧
          ∀ document : Value, document.isObject = false →
            m.accepts document = false ∧ n.accepts document = false := by
  obtain ⟨type, heq, hne⟩ := h.operators
  have hvalue := tests_eq he heq hv
  have hother := tests_ne he hne hv
  refine ⟨hvalue.compiles.trans hother.compiles.symm, fun m n hm hn => ?_⟩
  have hcomplement := accepts_ne he h hv hm hn
  have hobject : ∀ document, m.accepts document = true → document.isObject = true :=
    fun document ha => ((hvalue.accepts m hm document).mp ha).1
  refine ⟨fun documents => ⟨Collection.documents_ofInserts _ _, ?_⟩, fun members hnull => ?_, ?_⟩
  · exact Collection.sharedBy_of_complement hobject hcomplement _
  · have hrejects : m.accepts (.object members) = false := by
      rw [Bool.eq_false_iff, ne_eq, hvalue.accepts m hm, Test.PassedBy, storedIn?_of_null hnull]
      simp [Test.holdsOf, Test.holdsOfNothing]
    refine ⟨hrejects, ?_⟩
    rw [hcomplement, hrejects]
    rfl
  · intro document hd
    have hrejects : m.accepts document = false := by
      rw [Bool.eq_false_iff]
      intro ha
      rw [hobject document ha] at hd
      cases hd
    refine ⟨hrejects, ?_⟩
    rw [hcomplement, hd]
    rfl

end Complement

theorem tellsApart_published : Entity.book.TellsApart "published" .date := by
  refine ⟨by decide, rfl, rfl, by decide, ?_, ?_⟩
  · unfold Entity.OwnsName
    decide
  · unfold Entity.OwnsName
    decide

/-- Books and other documents, shared between those published on a leap day and the rest. -/
theorem library_published_complement :
    Entity.book ∈ Catalog.library.entities ∧
      Entity.book.TellsApart "published" .date ∧
      (Value.string "2020-02-29").isNull = false ∧
      ∃ m n, compile .library "Book" [("published", .string "2020-02-29")] = .ok m ∧
        compile .library "Book" [("published" ++ "_ne", .string "2020-02-29")] = .ok n ∧
        (Collection.ofInserts "Book"
          [.object [("published", .null)], .object [("published", .string "2020-02-29T00:00:00Z")],
            .object [("title", .string "Emma")], .string "2020-02-29",
            .object [("published", .string "2020-02-29")],
            .object [("published", .array [.string "2020-02-29"])]]).SharedBy m n := by
  have he : Entity.book ∈ Catalog.library.entities := List.mem_cons_self
  obtain ⟨-, haccepts⟩ :=
    inequality_complements_equality he tellsApart_published (v := .string "2020-02-29") rfl
  obtain ⟨hshared, -, -⟩ := haccepts _ _ rfl rfl
  exact ⟨he, tellsApart_published, rfl, _, _, rfl, rfl, (hshared _).2⟩

end Filter

end DocumentSchema

import DocumentSchema.Proofs.Traversal
import DocumentSchema.Schema.Document
import Mathlib.Data.List.Pairwise

/-!
# Valid catalogs

A catalog is valid when each of its entities is valid on its own and refers to
entities of the catalog only. Embedding arrays of an entity marks it, and
marking changes nothing else.
-/
namespace DocumentSchema

theorem find?_key_of_mem {α : Type} {key : α → String} {l : List α} (h : (l.map key).Nodup) {a : α}
    (ha : a ∈ l) : (l.find? fun x => key x = key a) = some a := by
  cases hf : l.find? fun x => key x = key a with
  | none =>
    have hne : key a ≠ key a := by simpa using List.find?_eq_none.mp hf a ha
    exact (hne rfl).elim
  | some x =>
    have hx : x ∈ l := List.mem_of_find?_eq_some hf
    have hkey : key x = key a := by simpa using List.find?_some hf
    rw [List.inj_on_of_nodup_map h hx ha hkey]

namespace Entity

theorem mem_references {e : Entity} {r : String × String} :
    r ∈ e.references ↔ (∃ d, (r.1, d) ∈ e.fields.entries ∧ d.target? = some r.2) ∨
      ∃ rel, (r.1, rel) ∈ e.relationships.entries ∧ rel.target = r.2 := by
  obtain ⟨field, target⟩ := r
  simp only [references, List.mem_append, List.mem_filterMap, Option.map_eq_some_iff,
    List.mem_map, Prod.mk.injEq, Prod.exists]
  constructor
  · rintro (⟨f, d, hm, t, ht, rfl, rfl⟩ | ⟨f, rel, hm, rfl, rfl⟩)
    · exact Or.inl ⟨d, hm, ht⟩
    · exact Or.inr ⟨rel, hm, rfl⟩
  · rintro (⟨d, hm, ht⟩ | ⟨rel, hm, rfl⟩)
    · exact Or.inl ⟨field, d, hm, target, ht, rfl, rfl⟩
    · exact Or.inr ⟨field, rel, hm, rfl, rfl⟩

end Entity

namespace Catalog

theorem mem_names_of_mem {c : Catalog} {e : Entity} (he : e ∈ c.entities) : e.name ∈ c.names :=
  List.mem_map_of_mem he

theorem mem_names {c : Catalog} {name : String} :
    name ∈ c.names ↔ ∃ e ∈ c.entities, e.name = name := by
  simp [names]

theorem get?_of_mem {c : Catalog} {e : Entity} (he : e ∈ c.entities) : c.get? e.name = some e :=
  find?_key_of_mem c.distinct he

theorem mem_of_get? {c : Catalog} {name : String} {e : Entity} (h : c.get? name = some e) :
    e ∈ c.entities ∧ e.name = name :=
  ⟨List.mem_of_find?_eq_some h, by simpa using List.find?_some h⟩

theorem eq_of_name_eq {c : Catalog} {a b : Entity} (ha : a ∈ c.entities) (hb : b ∈ c.entities)
    (h : a.name = b.name) : a = b := by
  have hget := get?_of_mem ha
  rw [h, get?_of_mem hb, Option.some.injEq] at hget
  exact hget.symm

/-- Names that no entity repeats on its own are distinct in the whole catalog when no two entities
share one. -/
theorem nodup_flatMap_iff (c : Catalog) {names : Entity → List String}
    (hn : ∀ e, (names e).Nodup) :
    (c.entities.flatMap names).Nodup ↔
      ∀ a ∈ c.entities, ∀ b ∈ c.entities, a.name ≠ b.name → ¬ ∃ n ∈ names a, n ∈ names b := by
  have : Std.Symm fun a b => List.Disjoint (names a) (names b) := ⟨fun _ _ h _ hb ha => h ha hb⟩
  have hdistinct : c.entities.Nodup := c.distinct.of_map
  have hname {a b : Entity} (ha : a ∈ c.entities) (hb : b ∈ c.entities) :
      a ≠ b ↔ a.name ≠ b.name := by
    refine not_congr ⟨fun h => h ▸ rfl, fun h => ?_⟩
    exact List.inj_on_of_nodup_map c.distinct ha hb h
  rw [List.nodup_flatMap]
  constructor
  · rintro ⟨-, hp⟩ a ha b hb hne ⟨n, hna, hnb⟩
    exact hp.forall ha hb ((hname ha hb).mpr hne) hna hnb
  · intro h
    refine ⟨fun e _ => hn e, hdistinct.pairwise_of_forall_ne fun a ha b hb hne n hna hnb => ?_⟩
    exact h a ha b hb ((hname ha hb).mp hne) ⟨n, hna, hnb⟩

theorem validateEntity_eq_ok {c : Catalog} {e : Entity} :
    c.validateEntity e = .ok () ↔
      e.validate = .ok () ∧ ∀ r ∈ e.references, r.2 ∈ c.names := by
  rw [validateEntity, Traversal.bind_eq_ok]
  cases hd : c.danglingReference? e with
  | none =>
    have hall : ∀ r ∈ e.references, r.2 ∈ c.names := by
      simpa [danglingReference?, contains] using hd
    constructor
    · rintro ⟨⟨⟩, hv, -⟩
      exact ⟨hv, hall⟩
    · rintro ⟨hv, -⟩
      exact ⟨(), hv, rfl⟩
  | some r =>
    have hm : r ∈ e.references := List.mem_of_find?_eq_some hd
    have hn : r.2 ∉ c.names := by simpa [contains] using List.find?_some hd
    simp only [reduceCtorEq, and_false, exists_false, false_iff, not_and]
    exact fun _ h => hn (h r hm)

theorem validate_eq_ok {c : Catalog} :
    c.validate = .ok () ↔ ∀ e ∈ c.entities,
      e.validate = .ok () ∧ ∀ r ∈ e.references, r.2 ∈ c.names := by
  simp only [validate, Traversal.forM_eq_ok, validateEntity_eq_ok]

section Valid

variable {c : Catalog} {e : Entity}

theorem isName_of_mem (hc : c.validate = .ok ()) (he : e ∈ c.entities) :
    isName e.name = true :=
  (Entity.validate_eq_ok.mp (validate_eq_ok.mp hc e he).1).1

theorem target_mem_names (hc : c.validate = .ok ()) (he : e ∈ c.entities) {f : String}
    {d : Descriptor} (hd : (f, d) ∈ e.fields.entries) {t : String} (ht : d.target? = some t) :
    t ∈ c.names :=
  (validate_eq_ok.mp hc e he).2 (f, t) (Entity.mem_references.mpr (Or.inl ⟨d, hd, ht⟩))

theorem relationship_mem_names (hc : c.validate = .ok ()) (he : e ∈ c.entities) {f : String}
    {r : Relationship} (hr : (f, r) ∈ e.relationships.entries) : r.target ∈ c.names :=
  (validate_eq_ok.mp hc e he).2 (f, r.target) (Entity.mem_references.mpr (Or.inr ⟨r, hr, rfl⟩))

end Valid

theorem mem_arrayTargets {c : Catalog} {t : String} :
    t ∈ c.arrayTargets.names ↔
      ∃ e ∈ c.entities, Descriptor.objectArray t ∈ e.fields.values := by
  simp only [arrayTargets, NameSet.mem_ofList, List.mem_filterMap, List.mem_flatMap]
  constructor
  · rintro ⟨d, ⟨e, he, hd⟩, hs⟩
    split at hs
    · cases hs
      exact ⟨e, he, hd⟩
    · cases hs
  · rintro ⟨e, he, hd⟩
    exact ⟨.objectArray t, ⟨e, he, hd⟩, rfl⟩

/-- An entity is used in arrays when it is flagged, or when some entity embeds arrays of it. -/
def UsedInArray (c : Catalog) (e : Entity) : Prop :=
  e.usedInArray = true ∨ ∃ b ∈ c.entities, Descriptor.objectArray e.name ∈ b.fields.values

theorem mark_eq (c : Catalog) (e : Entity) :
    c.mark e = { e with usedInArray := (c.mark e).usedInArray } := by
  unfold mark
  split <;> rfl

theorem usedInArray_mark {c : Catalog} {e : Entity} :
    (c.mark e).usedInArray = true ↔ c.UsedInArray e := by
  have ht : c.arrayTargets.contains e.name = true ↔
      ∃ b ∈ c.entities, Descriptor.objectArray e.name ∈ b.fields.values := by
    rw [← mem_arrayTargets, NameSet.contains, List.contains_iff_mem]
  unfold mark UsedInArray
  split
  · rename_i h
    simpa using Or.inr (ht.mp h)
  · rename_i h
    rw [ht] at h
    simp [h]

section Mark

variable (c : Catalog) (e : Entity)

@[simp] theorem name_mark : (c.mark e).name = e.name := by rw [mark_eq]

@[simp] theorem relationships_mark : (c.mark e).relationships = e.relationships := by rw [mark_eq]

@[simp] theorem resolvedFields_mark : (c.mark e).resolvedFields = e.resolvedFields := by
  rw [mark_eq]

@[simp] theorem manualArguments_mark : (c.mark e).manualArguments = e.manualArguments := by
  rw [mark_eq]

@[simp] theorem table_mark : (c.mark e).table = e.table := by rw [mark_eq]

@[simp] theorem validate_mark : (c.mark e).validate = e.validate := by rw [mark_eq]; rfl

@[simp] theorem plans_mark : (c.mark e).plans = e.plans := by rw [mark_eq]; rfl

@[simp] theorem diagnostics_mark : (c.mark e).diagnostics = e.diagnostics := by rw [mark_eq]; rfl

end Mark

end Catalog

end DocumentSchema

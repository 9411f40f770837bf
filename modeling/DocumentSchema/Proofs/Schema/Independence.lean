import DocumentSchema.Proofs.Schema.Faults
import DocumentSchema.Proofs.Schema.TypeNames

/-!
# Independence of entities

The schema of an entity depends on nothing in its catalog but whether the entity
is used in arrays. Catalogs that agree on this agree on the schema, and the order
of a catalog shows only in the order of the schemas.
-/
namespace DocumentSchema

theorem Entity.declares_arrayMutationInput (e : Entity) (source : FragmentSource) :
    ((e.permissiveSchema source).declaration? (TypeName.arrayMutationInput e.name)).isSome = true ↔
      e.usedInArray = true := by
  have hending : ∀ table usedInArray : Bool,
      (∃ x ∈ TypeName.endings table usedInArray, x.2 = "ArrayMutationInput") ↔
        usedInArray = true := by decide
  rw [← hending e.table e.usedInArray, EntitySchema.declaration?, List.find?_isSome]
  constructor
  · rintro ⟨d, hd, hn⟩
    obtain ⟨ending, hx, hname⟩ := declares_iff.mp ⟨d, hd, rfl, rfl⟩
    rw [decide_eq_true_iff.mp hn, TypeName.arrayMutationInput, String.append_right_inj] at hname
    exact ⟨_, hx, hname.symm⟩
  · rintro ⟨⟨kind, ending⟩, hx, rfl⟩
    obtain ⟨d, hd, -, hn⟩ := declares_iff.mpr ⟨_, hx, rfl⟩
    exact ⟨d, hd, decide_eq_true_iff.mpr hn⟩

namespace Catalog

/-- Of a catalog a mark tells only whether the entity is used in arrays. -/
theorem mark_congr {c₁ c₂ : Catalog} {e : Entity} (h : c₁.UsedInArray e ↔ c₂.UsedInArray e) :
    c₁.mark e = c₂.mark e := by
  have hused : (c₁.mark e).usedInArray = (c₂.mark e).usedInArray := by
    rw [Bool.eq_iff_iff, usedInArray_mark, usedInArray_mark, h]
  rw [mark_eq c₁, mark_eq c₂, hused]

theorem entity?_of_document {c : Catalog} {settings : Settings} {source : FragmentSource}
    {doc : SchemaDocument} (h : c.document settings source = .ok doc) {e : Entity}
    (he : e ∈ c.entities) : doc.entity? e.name = some ((c.mark e).permissiveSchema source) := by
  have hget : c.entities.find? (fun a => a.name = e.name) = some e := get?_of_mem he
  have hname (a : Entity) : ((c.mark a).permissiveSchema source).name = a.name := c.name_mark a
  rw [SchemaDocument.entity?, entities_of_document h, List.find?_map]
  simp only [Function.comp_def, hname, hget, Option.map_some]

section Perm

variable {c c' : Catalog} (h : c'.entities.Perm c.entities)
include h

theorem usedInArray_of_perm (e : Entity) : c'.UsedInArray e ↔ c.UsedInArray e := by
  simp only [UsedInArray, h.mem_iff]

theorem mem_names_of_perm {name : String} : name ∈ c'.names ↔ name ∈ c.names := by
  simp only [mem_names, h.mem_iff]

theorem validate_of_perm : c'.validate = .ok () ↔ c.validate = .ok () := by
  simp only [validate_eq_ok, h.mem_iff, mem_names_of_perm h]

theorem document_isOk_of_perm {settings : Settings} {source : FragmentSource} :
    (∃ doc, c'.document settings source = .ok doc) ↔
      ∃ doc, c.document settings source = .ok doc := by
  simp only [document_eq_ok, validate_of_perm h, h.mem_iff]
  constructor
  · rintro ⟨_, hs, hc, hd, -⟩
    exact ⟨_, hs, hc, hd, rfl⟩
  · rintro ⟨_, hs, hc, hd, -⟩
    exact ⟨_, hs, hc, hd, rfl⟩

end Perm

/-- The schema that two catalogs make of an entity is the same when they agree on whether it is used
in arrays, which is what its array input tells. A reordered catalog makes a document under the same
conditions, and its schemas are reordered like its entities. -/
theorem document_independent (settings : Settings) (source : FragmentSource) :
    (∀ (c₁ c₂ : Catalog) (doc₁ doc₂ : SchemaDocument),
        c₁.document settings source = .ok doc₁ → c₂.document settings source = .ok doc₂ →
        ∀ e, e ∈ c₁.entities → e ∈ c₂.entities → (c₁.UsedInArray e ↔ c₂.UsedInArray e) →
          ∃ s, doc₁.entity? e.name = some s ∧ doc₂.entity? e.name = some s ∧
            ((s.declaration? (TypeName.arrayMutationInput e.name)).isSome = true ↔
              c₁.UsedInArray e)) ∧
      ∀ c c' : Catalog, c'.entities.Perm c.entities →
        ((∃ doc', c'.document settings source = .ok doc') ↔
            ∃ doc, c.document settings source = .ok doc) ∧
          ∀ doc doc' : SchemaDocument, c.document settings source = .ok doc →
            c'.document settings source = .ok doc' →
              doc'.entities.Perm doc.entities ∧ ∀ i j : Nat,
                c'.entities[i]? = c.entities[j]? → doc'.entities[i]? = doc.entities[j]? := by
  constructor
  · intro c₁ c₂ doc₁ doc₂ h₁ h₂ e he₁ he₂ hused
    refine ⟨_, entity?_of_document h₁ he₁, ?_, ?_⟩
    · rw [mark_congr hused]
      exact entity?_of_document h₂ he₂
    · have hdeclares := (c₁.mark e).declares_arrayMutationInput source
      rwa [name_mark, usedInArray_mark] at hdeclares
  · intro c c' hperm
    refine ⟨document_isOk_of_perm hperm, fun doc doc' h h' => ?_⟩
    have hmark (e : Entity) : c'.mark e = c.mark e := mark_congr (usedInArray_of_perm hperm e)
    rw [entities_of_document h, entities_of_document h']
    simp only [hmark, List.getElem?_map]
    exact ⟨hperm.map _, fun i j hij => congrArg _ hij⟩

/-- Authors have one schema in the library and among all holdings, which may be reordered. -/
theorem library_holdings_independent : ∃ reordered : Catalog,
    reordered.entities = [.author, .book, .shelf] ∧
      (∃ s, (library.permissiveDocument .default .none).entity? "Author" = some s ∧
        (holdings.permissiveDocument .default .none).entity? "Author" = some s) ∧
      ∃ doc, reordered.document .default .none = .ok doc := by
  obtain ⟨hsame, hperm⟩ := document_independent .default .none
  have hused : library.UsedInArray .author ↔ holdings.UsedInArray .author :=
    iff_of_true (usedInArray_mark.mp rfl) (usedInArray_mark.mp rfl)
  obtain ⟨s, hlibrary, hall, -⟩ := hsame _ _ _ _ (document_library .none)
    (document_holdings .none) .author (by simp [library]) (by simp [holdings]) hused
  have hreordered :
      ([.author] ++ [.book, .shelf] : List Entity).Perm ([.book, .shelf] ++ [.author]) :=
    List.perm_append_comm
  obtain ⟨hok, -⟩ := hperm holdings ⟨[.author, .book, .shelf], by decide⟩ hreordered
  exact ⟨_, rfl, ⟨s, hlibrary, hall⟩, hok.mpr ⟨_, document_holdings .none⟩⟩

end Catalog

end DocumentSchema

import DocumentSchema.Proofs.Schema.Omission

/-!
# Clashes of field names in output types

The object type of an entity joins its fields, what is computed and its
relationships, and the types of results put the entity's own name, or its
plural, beside fixed ones. A valid entity keeps fields and relationships apart.
Names repeat where something computed is called like one of these, or where the
entity is called like the flag of a result.
-/
namespace DocumentSchema

namespace Entity

/-- Something computed is called like a field or like a relationship; a field that is left out does
not count. -/
def RepeatsComputed (e : Entity) : Prop :=
  ∃ n ∈ e.resolvedFields.names,
    n ∈ e.relationships.names ∨ ∃ d, (n, d) ∈ e.fields.entries ∧ d.isSupported = true

/-- The entity is called like the flag of a result, in the singular or in the plural. -/
def RepeatsFlag (e : Entity) : Prop := e.name = "success" ∨ e.name = "succes"

/-- The declarations that are output types have fields with distinct names. -/
def HasDistinctOutputs (ds : List Sdl.Declaration) : Prop :=
  ∀ d ∈ ds, d.kind = .object → (d.fields.map Sdl.Field.name).Nodup

section Types

variable (e : Entity)

theorem mem_names_withoutUnsupported {n : String} :
    n ∈ e.withoutUnsupported.fields.names ↔
      ∃ d, (n, d) ∈ e.fields.entries ∧ d.isSupported = true := by
  simp [NamedList.names, withoutUnsupported, NamedList.filterValues]

theorem objectType_names_nodup_iff (he : e.validate = .ok ()) :
    (e.objectType.fields.map Sdl.Field.name).Nodup ↔ ¬ e.RepeatsComputed := by
  have hfields : e.withoutUnsupported.fields.names.Nodup := e.withoutUnsupported.fields.distinct
  have hrelationships (n : String) (hn : n ∈ e.withoutUnsupported.fields.names) :
      n ∉ e.relationships.names := fun hr =>
    (validate_eq_ok.mp he).2.2 n hr (mem_fields_of_withoutUnsupported hn)
  rw [objectType_map_name, RepeatsComputed]
  simp only [← mem_names_withoutUnsupported, List.nodup_append, List.mem_append]
  constructor
  · rintro ⟨⟨-, -, hf⟩, -, hr⟩ ⟨n, hn, hm | hm⟩
    · exact hr n (.inr hn) n hm rfl
    · exact hf n hm n hn rfl
  · intro h
    refine ⟨⟨hfields, e.resolvedFields.distinct, ?_⟩, e.relationships.distinct, ?_⟩
    · rintro n hm _ hn rfl
      exact h ⟨n, hn, .inr hm⟩
    · rintro n (hm | hn) _ hr rfl
      · exact hrelationships n hm hr
      · exact h ⟨n, hn, .inl hr⟩

theorem resultTypes_names_nodup_iff : HasDistinctOutputs e.resultTypes ↔ ¬ e.RepeatsFlag := by
  have hmeta : e.name ++ "s" ≠ "Meta" := by
    intro h
    have hlast := congrArg (fun s : String => s.toList.getLast?) h
    simp at hlast
  have hplural : "success" = e.name ++ "s" ↔ e.name = "succes" := by
    rw [show "success" = "succes" ++ "s" from rfl, String.append_left_inj, eq_comm]
  have hsingular : "success" = e.name ↔ e.name = "success" := eq_comm
  simp [HasDistinctOutputs, resultTypes, Sdl.Field.plain, hmeta, hplural, hsingular, RepeatsFlag]

theorem hasDistinctOutputs_declarations (he : e.validate = .ok ()) :
    HasDistinctOutputs e.declarations ↔
      ¬ e.RepeatsComputed ∧ (e.table = true → ¬ e.RepeatsFlag) := by
  rw [← e.objectType_names_nodup_iff he, ← resultTypes_names_nodup_iff]
  cases ht : e.table <;> cases hu : e.usedInArray <;>
    simp [HasDistinctOutputs, declarations, ht, hu, or_imp, forall_and, objectType, inputType,
      mutationInputType, arrayMutationInputType, sortType, filtersType]

end Types

/-- An entity that is valid on its own gets a schema. No output type in it repeats the name of a
field, unless something computed is called like a field or like a relationship, or the entity is a
stored one that is called `success` or `succes`. -/
theorem output_names_nodup_iff {e : Entity} (he : e.validate = .ok ()) (source : FragmentSource) :
    (∃ s, e.schema false source = .ok s) ∧
      ∀ strict s, e.schema strict source = .ok s →
        (HasDistinctOutputs s.declarations ↔
          ¬ e.RepeatsComputed ∧ (e.table = true → ¬ e.RepeatsFlag)) := by
  refine ⟨⟨_, schema_eq_ok.mpr ⟨he, nofun, rfl⟩⟩, fun strict s hs => ?_⟩
  obtain ⟨-, -, rfl⟩ := schema_eq_ok.mp hs
  exact e.hasDistinctOutputs_declarations he

theorem book_output_names :
    ∃ s, book.schema false .none = .ok s ∧ HasDistinctOutputs s.declarations := by
  obtain ⟨⟨s, hs⟩, houtputs⟩ := output_names_nodup_iff (rfl : book.validate = .ok ()) .none
  have hcomputed : ∀ n ∈ book.resolvedFields.names,
      n ∉ book.relationships.names ∧ n ∉ book.fields.names := by decide
  refine ⟨s, hs, (houtputs false s hs).mpr ⟨?_, fun _ => by simp [RepeatsFlag, book]⟩⟩
  rintro ⟨n, hn, hr | ⟨d, hd, -⟩⟩
  · exact (hcomputed n hn).1 hr
  · exact (hcomputed n hn).2 (List.mem_map_of_mem hd)

def ratedBook : Entity where
  name := "RatedBook"
  fields := ⟨[("_id", .scalar .id), ("rating", .scalar .float)], by decide⟩
  relationships := .empty
  resolvedFields := ⟨[("rating", "Float")], by decide⟩
  manualArguments := []
  extras := .none
  table := true
  usedInArray := false

/-- The rated book is valid, and its object type has two fields for the rating. -/
theorem ratedBook_repeats_rating :
    ratedBook.validate = .ok () ∧ ∃ s, ratedBook.schema false .none = .ok s ∧
      ∃ d ∈ s.declarations, d.kind = .object ∧ d.name = "RatedBook" ∧
        d.fields.map Sdl.Field.name = ["_id", "rating", "rating"] := by
  have hvalid : ratedBook.validate = .ok () := rfl
  refine ⟨hvalid, _, schema_eq_ok.mpr ⟨hvalid, nofun, rfl⟩, ratedBook.objectType, ?_, rfl, rfl, rfl⟩
  simp [permissiveSchema, declarations]

end Entity

end DocumentSchema

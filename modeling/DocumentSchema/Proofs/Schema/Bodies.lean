import DocumentSchema.Proofs.Schema.Document

/-!
# Declarations without fields

Four of the declarations of an entity have only what its fields and its
relationships bring: the object type, the input types for documents and for
changes, and the order. A declaration that is brought nothing is written with
empty braces.
-/
namespace DocumentSchema

theorem ne_nil_of_mutationArguments? {field : String} {d : Descriptor}
    {ms : List MutationArgument} (h : mutationArguments? field d = some ms) : ms ≠ [] := by
  cases d with
  | scalar kind => cases kind <;> cases h <;> exact List.cons_ne_nil _ _
  | unsupported raw => cases h
  | _ =>
    cases h
    exact List.cons_ne_nil _ _

theorem FieldPlan.IsFor.mutations_eq_nil {name : String} {d : Descriptor} {p : FieldPlan}
    (h : IsFor name d p) : p.mutations = [] ↔ name = idField := by
  obtain ⟨ms, hms, hp⟩ := h.mutations
  rw [hp]
  by_cases hn : name = idField
  · simp [hn]
  · simp [hn, ne_nil_of_mutationArguments? hms]

theorem Sdl.Writer.declaration_of_fields_eq_nil (w : Writer) {d : Declaration}
    (h : d.fields = []) :
    w.declaration d = d.kind.keyword ++ " " ++ d.name ++ " \x7b\n\x7d" := by
  rw [declaration, h, List.map_nil]
  simp [String.append_assoc]

namespace Entity

/-- The names of the declarations to which nothing of the entity adds a field. -/
def bodilessNames (e : Entity) : List String :=
  (if e.supportedFields = [] ∧ e.resolvedFields.entries = [] ∧ e.relationships.entries = [] then
    [e.name] else []) ++
  (if e.supportedFields = [] ∧ e.relationships.entries = [] then
    [TypeName.input e.name] else []) ++
  (if (∀ f ∈ e.supportedFields, f.1 = idField) ∧ e.relationships.entries = [] then
    [TypeName.mutationInput e.name] else []) ++
  if ∀ f ∈ e.supportedFields, f.2.isJson = true then [TypeName.sort e.name] else []

section Declarations

variable (e : Entity)

theorem objectType_fields_eq_nil :
    e.objectType.fields = [] ↔
      e.supportedFields = [] ∧ e.resolvedFields.entries = [] ∧ e.relationships.entries = [] := by
  simp [objectType, ← plans_map]

theorem inputType_fields_eq_nil :
    e.inputType.fields = [] ↔ e.supportedFields = [] ∧ e.relationships.entries = [] := by
  simp [inputType, ← plans_map]

theorem mutationInputType_fields_eq_nil :
    e.mutationInputType.fields = [] ↔
      (∀ f ∈ e.supportedFields, f.1 = idField) ∧ e.relationships.entries = [] := by
  have hplans : e.plans.flatMap FieldPlan.mutations = [] ↔
      ∀ f ∈ e.supportedFields, f.1 = idField := by
    rw [List.flatMap_eq_nil_iff, ← plans_map, List.forall_mem_map]
    exact forall₂_congr fun p hp => (isFor_of_mem_plans hp).2.mutations_eq_nil
  rw [mutationInputType, List.map_eq_nil_iff, List.append_eq_nil_iff, hplans, List.map_eq_nil_iff]

theorem sortType_fields_eq_nil :
    e.sortType.fields = [] ↔ ∀ f ∈ e.supportedFields, f.2.isJson = true := by
  rw [sortType, List.map_eq_nil_iff, List.filter_eq_nil_iff, ← plans_map, List.forall_mem_map]
  simp

theorem resultTypes_fields_ne_nil {d : Sdl.Declaration} (hd : d ∈ e.resultTypes) :
    d.fields ≠ [] := by
  simp only [resultTypes, List.mem_cons, List.not_mem_nil, or_false] at hd
  rcases hd with rfl | rfl | rfl | rfl | rfl <;> exact List.cons_ne_nil _ _

theorem filtersType_fields_ne_nil : e.filtersType.fields ≠ [] := by
  simp [filtersType]

theorem map_name_filter_fields_eq_nil :
    (e.declarations.filter fun d => d.fields = []).map Sdl.Declaration.name = e.bodilessNames := by
  have hresults : (if e.table then e.resultTypes else []).filter (fun d => d.fields = []) = [] := by
    refine List.filter_eq_nil_iff.mpr fun d hd => ?_
    split at hd
    · simpa using resultTypes_fields_ne_nil e hd
    · cases hd
  have harray : (if e.usedInArray then [e.arrayMutationInputType] else []).filter
      (fun d => d.fields = []) = [] := by
    split <;> rfl
  have hone (d : Sdl.Declaration) (rest : List Sdl.Declaration) :
      ((d :: rest).filter fun d => d.fields = []).map Sdl.Declaration.name =
        (if d.fields = [] then [d.name] else []) ++
          (rest.filter fun d => d.fields = []).map Sdl.Declaration.name := by
    by_cases hd : d.fields = [] <;> simp [hd]
  simp only [declarations, List.filter_append, List.map_append, hresults, harray, hone]
  simp only [objectType_fields_eq_nil, inputType_fields_eq_nil, mutationInputType_fields_eq_nil,
    sortType_fields_eq_nil, filtersType_fields_ne_nil, if_false, List.filter_nil, List.map_nil,
    List.append_nil, bodilessNames, List.append_assoc]
  rfl

theorem bodilessNames_eq_nil :
    e.bodilessNames = [] ↔
      (∃ f ∈ e.supportedFields, f.2.isJson = false) ∧
        ((∃ f ∈ e.supportedFields, f.1 ≠ idField) ∨ e.relationships.entries ≠ []) := by
  simp only [bodilessNames, List.append_eq_nil_iff, ite_eq_right_iff, List.cons_ne_nil, imp_false]
  constructor
  · rintro ⟨⟨⟨-, -⟩, hmutation⟩, hsort⟩
    refine ⟨by simpa using hsort, ?_⟩
    by_contra hnone
    push Not at hnone
    exact hmutation hnone
  · rintro ⟨⟨f, hf, hjson⟩, hmutation⟩
    have hne : e.supportedFields ≠ [] := List.ne_nil_of_mem hf
    refine ⟨⟨⟨fun h => hne h.1, fun h => hne h.1⟩, fun h => ?_⟩, fun h => ?_⟩
    · rcases hmutation with ⟨g, hg, hid⟩ | hrelationships
      · exact hid (h.1 g hg)
      · exact hrelationships h.2
    · simp [h f hf] at hjson

end Declarations

end Entity

namespace Catalog

variable {c : Catalog} {settings : Settings} {source : FragmentSource} {doc : SchemaDocument}

/-- In a document the declarations of an entity without fields are exactly those that its supported
fields, its computed fields and its relationships leave empty. They are written with empty braces.
None is left empty when every entity has a supported field that is not free JSON, and a supported
field other than the identifier or a relationship. -/
theorem bodiless_declarations_of_document (h : c.document settings source = .ok doc) :
    (doc.entities.flatMap fun s =>
        (s.declarations.filter fun d => d.fields = []).map Sdl.Declaration.name) =
      c.entities.flatMap Entity.bodilessNames ∧
    (∀ d : Sdl.Declaration, d.fields = [] →
      doc.writer.declaration d = d.kind.keyword ++ " " ++ d.name ++ " \x7b\n\x7d") ∧
    ((∀ s ∈ doc.entities, ∀ d ∈ s.declarations, d.fields ≠ []) ↔
      ∀ e ∈ c.entities, (∃ f ∈ e.supportedFields, f.2.isJson = false) ∧
        ((∃ f ∈ e.supportedFields, f.1 ≠ idField) ∨ e.relationships.entries ≠ [])) := by
  have hnames : (doc.entities.flatMap fun s =>
      (s.declarations.filter fun d => d.fields = []).map Sdl.Declaration.name) =
        c.entities.flatMap Entity.bodilessNames := by
    have hmark (e : Entity) : (c.mark e).bodilessNames = e.bodilessNames := by
      rw [mark_eq]
      rfl
    rw [entities_of_document h, List.flatMap_map]
    simp only [Entity.permissiveSchema, Entity.map_name_filter_fields_eq_nil, hmark]
  refine ⟨hnames, fun d => doc.writer.declaration_of_fields_eq_nil, ?_⟩
  have hnil := congrArg (· = []) hnames
  simp only [List.flatMap_eq_nil_iff, List.map_eq_nil_iff, List.filter_eq_nil_iff,
    decide_eq_true_eq, Entity.bodilessNames_eq_nil] at hnil
  exact hnil.to_iff

theorem library_declarations_have_fields :
    ∃ doc, library.document .default .none = .ok doc ∧
      ∀ s ∈ doc.entities, ∀ d ∈ s.declarations, d.fields ≠ [] := by
  obtain ⟨-, -, hbodies⟩ := bodiless_declarations_of_document (document_library .none)
  exact ⟨_, document_library .none, hbodies.mpr (by decide)⟩

end Catalog

def Entity.tag : Entity :=
  { Entity.empty "Tag" with fields := ⟨[("data", .scalar .json)], by decide⟩ }

def Catalog.tags : Catalog := ⟨[.tag], by decide⟩

/-- A document is made of the tags, and their order is written with empty braces. -/
theorem Catalog.tags_order_has_no_fields :
    ∃ doc, tags.document .default .none = .ok doc ∧ ∃ s ∈ doc.entities, ∃ d ∈ s.declarations,
      d.fields = [] ∧ doc.writer.declaration d = "input TagSort \x7b\n\x7d" := by
  refine ⟨tags.permissiveDocument .default .none, rfl, _, List.mem_cons_self,
    Entity.tag.sortType, ?_, ?_, ?_⟩ <;> decide

end DocumentSchema

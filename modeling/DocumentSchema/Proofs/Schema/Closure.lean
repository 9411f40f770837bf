import DocumentSchema.Proofs.Schema.References
import DocumentSchema.Proofs.Filter.Operators

/-!
# Generated references are closed

Validation puts every target of a reference into the catalog, and marking the
targets of embedded arrays declares the inputs that update their elements. So
whatever name a generator makes stands for a scalar or for a declaration of the
kind asked for.
-/
namespace DocumentSchema

def Usage.kind : Usage → Sdl.Kind
  | .output => .object
  | .input => .input

namespace FilterType

def base : FilterType → FilterType
  | list element => element.base
  | t => t

theorem resolves_text_iff {doc : SchemaDocument} {kind : Sdl.Kind} (t : FilterType) :
    doc.Resolves (kind, t.text) ↔ doc.Resolves (kind, t.base.text) := by
  induction t with
  | list element ih => simpa [text, base] using ih
  | _ => rfl

theorem text_base_of_isPlain {t : FilterType} (h : t.isPlain = true) :
    t.base.text ∈ ["String", "Int", "Float", "Boolean", "JSON"] := by
  induction t with
  | list element ih => exact ih h
  | json | filters n => cases h
  | _ => decide

end FilterType

/-- A filter takes scalars, or filters of the entity its field embeds. -/
theorem FilterBlock.base_of_mem {d : Descriptor} {ops : FilterBlock}
    (h : ofDescriptor? d = some ops) {x : FilterOp × FilterType} (hx : x ∈ ops) :
    x.2.base.text ∈ ["String", "Int", "Float", "Boolean", "JSON"] ∨
      ∃ target, d.target? = some target ∧ x.2.base = .filters target := by
  have hf := fits_of_mem h hx
  by_cases hop : x.1 = .nested
  · obtain ⟨target, htarget, htype⟩ := hf.nested hop
    rw [htype]
    exact Or.inr ⟨target, htarget, rfl⟩
  · left
    rcases hf.plain hop with htype | hplain
    · rw [htype]
      decide
    · exact FilterType.text_base_of_isPlain hplain

namespace Catalog

variable {c : Catalog} {settings : Settings} {source : FragmentSource} {doc : SchemaDocument}

theorem resolves_ending (h : c.document settings source = .ok doc) {e : Entity}
    (he : e ∈ c.entities) {x : Sdl.Kind × String}
    (hx : x ∈ TypeName.endings e.table (c.mark e).usedInArray) :
    doc.Resolves (x.1, e.name ++ x.2) := by
  have hdeclared : ∃ d ∈ (c.mark e).declarations, d.kind = x.1 ∧ d.name = e.name ++ x.2 := by
    rw [Entity.declares_iff]
    exact ⟨x.2, by simpa using hx, by simp⟩
  obtain ⟨d, hd, hkind, hname⟩ := hdeclared
  have hmem : d ∈ doc.declarations := by
    rw [SchemaDocument.declarations, entities_of_document h]
    refine List.mem_append_right _ (List.mem_flatMap.mpr ⟨_, List.mem_map_of_mem he, hd⟩)
  have hword : IsWord d.name := by
    rw [hname]
    exact isWord_append (isWord_of_isName (isName_of_mem (validate_of_document h) he))
      (isWord_ending hx)
  rw [← hkind, ← hname]
  exact SchemaDocument.resolves_of_mem hmem hword

theorem resolves_target (h : c.document settings source = .ok doc) {target : String}
    (ht : target ∈ c.names) {x : Sdl.Kind × String} (hx : x ∈ TypeName.endings false false) :
    doc.Resolves (x.1, target ++ x.2) := by
  obtain ⟨e, he, rfl⟩ := mem_names.mp ht
  exact resolves_ending h he (TypeName.endings_mono hx nofun nofun)

theorem resolves_entityType (h : c.document settings source = .ok doc) {target : String}
    (ht : target ∈ c.names) (u : Usage) : doc.Resolves (u.kind, entityType target u) := by
  cases u with
  | output =>
    have hr := resolves_target h ht (x := (.object, "")) (by decide)
    rwa [String.append_empty] at hr
  | input => exact resolves_target h ht (x := (.input, "Input")) (by decide)

theorem resolves_mutationInput (h : c.document settings source = .ok doc) {target : String}
    (ht : target ∈ c.names) : doc.Resolves (.input, TypeName.mutationInput target) :=
  resolves_target h ht (x := (.input, "MutationInput")) (by decide)

theorem resolves_filters (h : c.document settings source = .ok doc) {target : String}
    (ht : target ∈ c.names) : doc.Resolves (.input, TypeName.filters target) :=
  resolves_target h ht (x := (.input, "Filters")) (by decide)

theorem resolves_sort (h : c.document settings source = .ok doc) {target : String}
    (ht : target ∈ c.names) : doc.Resolves (.input, TypeName.sort target) :=
  resolves_target h ht (x := (.input, "Sort")) (by decide)

theorem resolves_arrayMutationInput (h : c.document settings source = .ok doc) {e : Entity}
    (he : e ∈ c.entities) {target : String} (ht : target ∈ c.names)
    (hd : Descriptor.objectArray target ∈ e.fields.values) :
    doc.Resolves (.input, TypeName.arrayMutationInput target) := by
  obtain ⟨a, ha, rfl⟩ := mem_names.mp ht
  have hmark : (c.mark a).usedInArray = true := usedInArray_mark.mpr (Or.inr ⟨e, he, hd⟩)
  refine resolves_ending h ha (x := (.input, "ArrayMutationInput")) ?_
  rw [hmark]
  cases a.table <;> decide

end Catalog

namespace SchemaDocument

variable {doc : SchemaDocument}

theorem resolves_scalar (hp : doc.emitPrelude = true) {kind : Sdl.Kind} {type : String}
    (ht : type ∈ ["String", "Int", "Float", "Boolean", "JSON"]) : doc.Resolves (kind, type) := by
  have hword : ∀ t ∈ ["String", "Int", "Float", "Boolean", "JSON"],
      t.toList.all isNamePart = true := by decide
  refine Or.inl ?_
  rw [bareName_of_isWord (isWord_of_all (hword type ht)), scalars, hp]
  exact ht

theorem resolves_string (hp : doc.emitPrelude = true) {kind : Sdl.Kind} :
    doc.Resolves (kind, "String") :=
  resolves_scalar hp (by decide)

theorem resolves_int (hp : doc.emitPrelude = true) {kind : Sdl.Kind} :
    doc.Resolves (kind, "Int") :=
  resolves_scalar hp (by decide)

theorem resolves_boolean (hp : doc.emitPrelude = true) {kind : Sdl.Kind} :
    doc.Resolves (kind, "Boolean") :=
  resolves_scalar hp (by decide)

theorem resolves_prelude (hp : doc.emitPrelude = true) {d : Sdl.Declaration}
    (hd : d ∈ Sdl.preludeDeclarations) : doc.Resolves (d.kind, d.name) := by
  have hword : ∀ d ∈ Sdl.preludeDeclarations, d.name.toList.all isNamePart = true := by decide
  refine resolves_of_mem ?_ (isWord_of_all (hword d hd))
  rw [declarations, hp]
  exact List.mem_append_left _ hd

theorem resolves_arrayUpdate (hp : doc.emitPrelude = true) (kind : ElementKind) :
    doc.Resolves (.input, kind.arrayUpdate) := by
  cases kind with
  | string | id => exact resolves_prelude hp (d := Sdl.preludeDeclarations[1]) (by decide)
  | int => exact resolves_prelude hp (d := Sdl.preludeDeclarations[2]) (by decide)
  | float => exact resolves_prelude hp (d := Sdl.preludeDeclarations[3]) (by decide)

end SchemaDocument

namespace Catalog

variable {c : Catalog} {settings : Settings} {source : FragmentSource} {doc : SchemaDocument}
  {e : Entity} {f : String} {d : Descriptor}

section Field

variable (h : c.document settings source = .ok doc) (hp : doc.emitPrelude = true)
  (he : e ∈ c.entities) (hd : (f, d) ∈ e.fields.entries)

include h hp he hd

theorem resolves_readType (hl : d.isLiteral = false) {u : Usage} {type : String}
    (ht : readType? u d = some type) : doc.Resolves (u.kind, type) := by
  have htarget {target : String} (hdt : d.target? = some target) : target ∈ c.names :=
    target_mem_names (validate_of_document h) he hd hdt
  cases d with
  | scalar kind =>
    cases ht
    cases kind <;> exact SchemaDocument.resolves_scalar hp (by decide)
  | scalarArray kind =>
    cases ht
    rw [SchemaDocument.resolves_listOf]
    cases kind <;> exact SchemaDocument.resolves_scalar hp (by decide)
  | date =>
    cases ht
    exact SchemaDocument.resolves_scalar hp (by decide)
  | object target =>
    cases ht
    exact resolves_entityType h (htarget rfl) u
  | objectArray target =>
    cases ht
    rw [SchemaDocument.resolves_listOf]
    exact resolves_entityType h (htarget rfl) u
  | literal type => cases hl
  | unsupported raw => cases ht

theorem resolves_filterType {args : List FilterArgument} (ha : filterArguments? f d = some args)
    {a : FilterArgument} (hm : a ∈ args) : doc.Resolves (.input, a.type.text) := by
  obtain ⟨ops, hops, rfl⟩ := Option.map_eq_some_iff.mp ha
  obtain ⟨x, hx, rfl⟩ := List.mem_map.mp hm
  rw [FilterType.resolves_text_iff]
  rcases FilterBlock.base_of_mem hops hx with hscalar | ⟨target, ht, hb⟩
  · exact SchemaDocument.resolves_scalar hp hscalar
  · rw [hb]
    have hn := target_mem_names (validate_of_document h) he hd ht
    exact resolves_filters h hn

theorem resolves_mutationType (hl : d.isLiteral = false) {args : List MutationArgument}
    (ha : mutationArguments? f d = some args) {a : MutationArgument} (hm : a ∈ args) :
    doc.Resolves (.input, a.type) := by
  have htarget {target : String} (hdt : d.target? = some target) : target ∈ c.names :=
    target_mem_names (validate_of_document h) he hd hdt
  have hscalar {type : String} (ht : type ∈ ["String", "Int", "Float", "Boolean", "JSON"]) :
      doc.Resolves (.input, type) := SchemaDocument.resolves_scalar hp ht
  obtain ⟨ops, hops, rfl⟩ := Option.map_eq_some_iff.mp ha
  suffices hall : ∀ x ∈ ops, doc.Resolves (.input, x.2) by
    obtain ⟨x, hx, rfl⟩ := List.mem_map.mp hm
    exact hall x hx
  cases d with
  | scalar kind =>
    cases kind <;> cases hops <;> simp [MutationBlock.number, ScalarKind.typeName, hscalar]
  | scalarArray kind =>
    have helement : doc.Resolves (.input, kind.typeName) := by
      cases kind <;> exact hscalar (by decide)
    cases hops
    simp [MutationBlock.scalarArray, helement, SchemaDocument.resolves_arrayUpdate hp kind]
  | date =>
    cases hops
    simp [hscalar]
  | object target =>
    have hinput := resolves_entityType h (htarget rfl) .input
    have hupdate := resolves_mutationInput h (htarget rfl)
    cases hops
    simpa [MutationBlock.object] using ⟨hinput, hupdate⟩
  | objectArray target =>
    have hinput : doc.Resolves (.input, TypeName.input target) :=
      resolves_entityType h (htarget rfl) .input
    have hfilters := resolves_filters h (htarget rfl)
    have hupdate := resolves_arrayMutationInput h he (htarget rfl) (List.mem_map_of_mem hd)
    cases hops
    simp [MutationBlock.objectArray, hinput, hfilters, hupdate]
  | literal type => cases hl
  | unsupported raw => cases hops

end Field

theorem resolves_relationship (h : c.document settings source = .ok doc) (he : e ∈ c.entities)
    {r : Relationship} (hr : (f, r) ∈ e.relationships.entries) (u : Usage) :
    doc.Resolves (u.kind, r.type u) := by
  have ht := resolves_entityType h (relationship_mem_names (validate_of_document h) he hr) u
  unfold Relationship.type
  split
  · exact SchemaDocument.resolves_listOf.mpr ht
  · exact ht

theorem resolves_resolver (h : c.document settings source = .ok doc) (he : e ∈ c.entities)
    {r : Relationship} (hr : (f, r) ∈ e.relationships.entries) :
    ∀ u ∈ (r.resolver f).typeUses .object, doc.Resolves u := by
  have htype : doc.Resolves (.object, r.type .output) := resolves_relationship h he hr .output
  have hsort := resolves_sort h (relationship_mem_names (validate_of_document h) he hr)
  simp only [Sdl.Field.typeUses, Relationship.resolver, Relationship.resolverArguments]
  cases r.isArray <;> simpa [hsort] using htype

section Own

variable (h : c.document settings source = .ok doc) (hp : doc.emitPrelude = true)
  (he : e ∈ c.entities)

include h hp he

theorem resolves_objectReferences {r : TypeReference} (hr : r ∈ (c.mark e).objectReferences)
    (hs : r.supplied = false) : doc.Resolves r.use := by
  simp only [Entity.objectReferences, plans_mark, relationships_mark, List.mem_append,
    List.mem_map, List.mem_flatMap] at hr
  rcases hr with (⟨p, hplan, rfl⟩ | ⟨field, -, rfl⟩) | ⟨rel, hrel, u, hu, rfl⟩
  · obtain ⟨hd, hfor⟩ := Entity.isFor_of_mem_plans hplan
    exact resolves_readType h hp he hd hs hfor.output
  · cases hs
  · exact resolves_resolver h he hrel u hu

theorem resolves_inputReferences {r : TypeReference} (hr : r ∈ (c.mark e).inputReferences)
    (hs : r.supplied = false) : doc.Resolves r.use := by
  simp only [Entity.inputReferences, plans_mark, relationships_mark, List.mem_append,
    List.mem_map] at hr
  rcases hr with ⟨p, hplan, rfl⟩ | ⟨rel, hrel, rfl⟩
  · obtain ⟨hd, hfor⟩ := Entity.isFor_of_mem_plans hplan
    exact resolves_readType h hp he hd hs hfor.input
  · exact resolves_relationship h he hrel .input

theorem resolves_mutationInputReferences {r : TypeReference}
    (hr : r ∈ (c.mark e).mutationInputReferences) (hs : r.supplied = false) :
    doc.Resolves r.use := by
  simp only [Entity.mutationInputReferences, plans_mark, relationships_mark, List.mem_append,
    List.mem_map, List.mem_flatMap] at hr
  rcases hr with ⟨p, hplan, a, ha, rfl⟩ | ⟨rel, hrel, rfl⟩
  · obtain ⟨hd, hfor⟩ := Entity.isFor_of_mem_plans hplan
    obtain ⟨ms, hms, heq⟩ := hfor.mutations
    rw [heq] at ha
    split at ha
    · simp at ha
    · exact resolves_mutationType h hp he hd hs hms ha
  · exact resolves_relationship h he hrel .input

theorem resolves_resultTypes {d : Sdl.Declaration} (hd : d ∈ (c.mark e).resultTypes)
    {u : Sdl.TypeUse} (hu : u ∈ d.typeUses) : doc.Resolves u := by
  have hname : doc.Resolves (.object, e.name) :=
    resolves_entityType h (mem_names_of_mem he) .output
  have hmeta : doc.Resolves (.object, TypeName.queryResultsMetadata) :=
    SchemaDocument.resolves_prelude hp (d := Sdl.preludeDeclarations[0]) (by decide)
  have hboolean : doc.Resolves (.object, "Boolean") := SchemaDocument.resolves_boolean hp
  suffices hall : ∀ d ∈ (c.mark e).resultTypes, ∀ u ∈ d.typeUses, doc.Resolves u from hall d hd u hu
  simp [Entity.resultTypes, Sdl.Declaration.typeUses, forall_and, hname, hmeta, hboolean,
    -Prod.forall]

theorem resolves_filterArguments {a : Sdl.Argument} (ha : a ∈ (c.mark e).filterArguments) :
    doc.Resolves (.input, a.type) := by
  simp only [Entity.filterArguments, plans_mark, List.mem_flatMap, List.mem_map] at ha
  obtain ⟨p, hplan, x, hx, rfl⟩ := ha
  obtain ⟨hd, hfor⟩ := Entity.isFor_of_mem_plans hplan
  exact resolves_filterType h hp he hd hfor.filters hx

theorem resolves_ownDeclarations {d : Sdl.Declaration} (hd : d ∈ (c.mark e).ownDeclarations)
    {u : Sdl.TypeUse} (hu : u ∈ d.typeUses) : doc.Resolves u := by
  have hint : doc.Resolves (.input, "Int") := SchemaDocument.resolves_int hp
  have hupdate := resolves_mutationInput h (mem_names_of_mem he)
  have hfilters := resolves_filters h (mem_names_of_mem he)
  simp only [Entity.ownDeclarations, List.mem_append, List.mem_ite_nil_right, List.mem_cons,
    List.not_mem_nil, or_false] at hd
  rcases hd with ⟨-, rfl⟩ | rfl | rfl
  · revert u
    simp [Entity.arrayMutationInputType, Sdl.Declaration.typeUses, hint, hupdate, -Prod.forall]
  · simp only [Entity.sortType, Sdl.Declaration.typeUses, List.flatMap_map, List.mem_flatMap,
      Sdl.Field.typeUses_plain, List.mem_singleton] at hu
    obtain ⟨p, -, rfl⟩ := hu
    exact hint
  · simp only [Entity.filtersType, Sdl.Declaration.typeUses, List.flatMap_map, List.mem_flatMap,
      Sdl.Argument.toField, Sdl.Field.typeUses_plain, List.mem_singleton, List.mem_append] at hu
    obtain ⟨a, ha | rfl, rfl⟩ := hu
    · exact resolves_filterArguments h hp he ha
    · simpa [Entity.orArgument] using hfilters

theorem resolves_declarationReferences {r : TypeReference}
    (hr : r ∈ (c.mark e).declarationReferences) (hs : r.supplied = false) :
    doc.Resolves r.use := by
  simp only [Entity.declarationReferences, List.mem_append, List.mem_ite_nil_right,
    List.mem_flatMap, List.mem_map] at hr
  rcases hr with (((hr | ⟨-, d, hd, u, hu, rfl⟩) | hr) | hr) | ⟨d, hd, u, hu, rfl⟩
  · exact resolves_objectReferences h hp he hr hs
  · exact resolves_resultTypes h hp he hd hu
  · exact resolves_inputReferences h hp he hr hs
  · exact resolves_mutationInputReferences h hp he hr hs
  · exact resolves_ownDeclarations h hp he hd hu

/-- The identifier of an update is read as its field is; without that field it is a string. -/
theorem resolves_idType (hs : (c.mark e).idIsLiteral = false) :
    doc.Resolves (.object, (c.mark e).idType) := by
  unfold Entity.idIsLiteral at hs
  unfold Entity.idType
  rw [plans_mark] at hs ⊢
  cases hf : e.plans.find? fun p => p.name = idField with
  | none => exact SchemaDocument.resolves_string hp
  | some p =>
    obtain ⟨hd, hfor⟩ := Entity.isFor_of_mem_plans (List.mem_of_find?_eq_some hf)
    rw [hf] at hs
    exact resolves_readType h hp he hd hs hfor.output

omit h he in
theorem resolves_pagingArguments {a : Sdl.Argument} (ha : a ∈ Entity.pagingArguments) :
    doc.Resolves (.input, a.type) := by
  obtain ⟨name, -, rfl⟩ := List.mem_map.mp ha
  exact SchemaDocument.resolves_int hp

omit h he in
theorem resolves_dateFormats {a : Sdl.Argument} (ha : a ∈ (c.mark e).dateFormats) :
    doc.Resolves (.input, a.type) := by
  obtain ⟨field, -, rfl⟩ := List.mem_map.mp ha
  exact SchemaDocument.resolves_string hp

theorem resolves_allArguments {a : Sdl.Argument}
    (ha : a ∈ ({ c.mark e with manualArguments := [] } : Entity).arguments .all) :
    doc.Resolves (.input, a.type) := by
  have hfilters := resolves_filters h (mem_names_of_mem he)
  have hsort := resolves_sort h (mem_names_of_mem he)
  simp only [Entity.arguments, Entity.orArgument, name_mark, List.mem_append, List.mem_cons,
    List.not_mem_nil, or_false] at ha
  rcases ha with ((((ha | rfl) | rfl | rfl) | ha) | ha) | ha
  · exact resolves_filterArguments h hp he ha
  · exact SchemaDocument.resolves_listOf.mpr hfilters
  · exact hsort
  · exact SchemaDocument.resolves_listOf.mpr hsort
  · exact resolves_pagingArguments hp ha
  · exact resolves_dateFormats hp ha
  · cases ha

omit h he in
theorem resolves_getArguments {a : Sdl.Argument}
    (ha : a ∈ ({ c.mark e with manualArguments := [] } : Entity).arguments .get) :
    doc.Resolves (.input, a.type) := by
  simp only [Entity.arguments, List.mem_append, List.mem_cons, List.not_mem_nil, or_false] at ha
  rcases ha with (rfl | ha) | ha
  · exact SchemaDocument.resolves_string hp
  · exact resolves_dateFormats hp ha
  · cases ha

theorem resolves_mutationArguments {op : RootOperation} (hop : op ∈ RootOperation.mutations)
    (hne : op ≠ .update) {a : Sdl.Argument} (ha : a ∈ (c.mark e).arguments op) :
    doc.Resolves (.input, a.type) := by
  have hstrings : doc.Resolves (.input, listOf "String") :=
    SchemaDocument.resolves_listOf.mpr (SchemaDocument.resolves_string hp)
  have hinput : doc.Resolves (.input, TypeName.input e.name) :=
    resolves_entityType h (mem_names_of_mem he) .input
  have hfilters := resolves_filters h (mem_names_of_mem he)
  have hupdates := resolves_mutationInput h (mem_names_of_mem he)
  cases op <;> simp only [Entity.arguments, name_mark, List.mem_cons, List.not_mem_nil,
    or_false] at ha
  case create =>
    subst ha
    exact hinput
  case update => exact (hne rfl).elim
  case updateMany =>
    rcases ha with rfl | rfl
    · exact hstrings
    · exact hupdates
  case updateBulk =>
    rcases ha with rfl | rfl
    · exact hfilters
    · exact hupdates
  case delete =>
    subst ha
    exact SchemaDocument.resolves_string hp
  case all | get => exact absurd hop (by decide)

theorem resolves_updateReferences {r : TypeReference}
    (hr : r ∈ (c.mark e).argumentReferences .update) (hs : r.supplied = false) :
    doc.Resolves r.use := by
  have hupdates := resolves_mutationInput h (mem_names_of_mem he)
  simp only [Entity.argumentReferences, name_mark, List.mem_cons, List.not_mem_nil,
    or_false] at hr
  rcases hr with rfl | rfl
  · exact resolves_idType h hp he hs
  · exact hupdates

theorem resolves_argumentReferences {op : RootOperation} {r : TypeReference}
    (hr : r ∈ (c.mark e).argumentReferences op) (hs : r.supplied = false) :
    doc.Resolves r.use := by
  cases op with
  | update => exact resolves_updateReferences h hp he hr hs
  | all =>
    rcases List.mem_append.mp hr with hr | hr <;> obtain ⟨a, ha, rfl⟩ := List.mem_map.mp hr
    · exact resolves_allArguments h hp he ha
    · cases hs
  | get =>
    rcases List.mem_append.mp hr with hr | hr <;> obtain ⟨a, ha, rfl⟩ := List.mem_map.mp hr
    · exact resolves_getArguments hp ha
    · cases hs
  | create | updateMany | updateBulk | delete =>
    obtain ⟨a, ha, rfl⟩ := List.mem_map.mp hr
    exact resolves_mutationArguments h hp he (by decide) (by decide) ha

/-- Results are wrapped in types that only stored entities have. -/
theorem resolves_returns (ht : e.table = true) (op : RootOperation) :
    doc.Resolves (.object, (c.mark e).returns op) := by
  have hending (ending : String)
      (hx : ∀ usedInArray, (Sdl.Kind.object, ending) ∈ TypeName.endings true usedInArray) :
      doc.Resolves (.object, e.name ++ ending) :=
    resolves_ending h he (x := (.object, ending)) (by rw [ht]; exact hx _)
  cases op <;> simp only [Entity.returns, name_mark]
  case delete => exact SchemaDocument.resolves_boolean hp
  case create | update => exact hending "MutationResult" (by decide)
  case updateMany => exact hending "MutationResultMulti" (by decide)
  case updateBulk => exact hending "BulkMutationResult" (by decide)
  case all => exact hending "QueryResults" (by decide)
  case get => exact hending "SingleQueryResult" (by decide)

theorem resolves_typeReferences {r : TypeReference} (hr : r ∈ (c.mark e).typeReferences)
    (hs : r.supplied = false) : doc.Resolves r.use := by
  simp only [Entity.typeReferences, List.mem_append] at hr
  rcases hr with hr | hr
  · exact resolves_declarationReferences h hp he hr hs
  · simp only [Entity.operationReferences, List.mem_ite_nil_right, List.mem_flatMap,
      List.mem_append, List.mem_singleton] at hr
    obtain ⟨ht, op, -, hr | rfl⟩ := hr
    · exact resolves_argumentReferences h hp he hr hs
    · exact resolves_returns h hp he (by simpa using ht) op

end Own

theorem suppliesType_plan {p : FieldPlan} (hplan : p ∈ e.plans)
    (hl : p.descriptor.isLiteral = true) :
    e.SuppliesType p.output ∧ e.SuppliesType p.input ∧
      ∀ a ∈ p.mutations, e.SuppliesType a.type := by
  obtain ⟨hd, hfor⟩ := Entity.isFor_of_mem_plans hplan
  obtain ⟨type, ht⟩ : ∃ type, p.descriptor = .literal type := by
    cases hp : p.descriptor <;> simp_all [Descriptor.isLiteral]
  have hs : e.SuppliesType type := Or.inl ⟨p.name, ht ▸ hd⟩
  have ho := hfor.output
  have hi := hfor.input
  obtain ⟨ms, hms, heq⟩ := hfor.mutations
  rw [ht] at ho hi hms
  refine ⟨Option.some.inj ho ▸ hs, Option.some.inj hi ▸ hs, ?_⟩
  intro a ha
  rw [heq] at ha
  split at ha
  · simp at ha
  · cases hms
    simp only [List.map_cons, List.map_nil, List.mem_singleton] at ha
    rw [ha]
    exact hs

theorem suppliesType_objectReferences {r : TypeReference} (hr : r ∈ (c.mark e).objectReferences)
    (hs : r.supplied = true) : e.SuppliesType r.use.2 := by
  simp only [Entity.objectReferences, plans_mark, resolvedFields_mark, List.mem_append,
    List.mem_map, List.mem_flatMap] at hr
  rcases hr with (⟨p, hplan, rfl⟩ | ⟨f, hf, rfl⟩) | ⟨_, -, u, -, rfl⟩
  · exact (suppliesType_plan hplan hs).1
  · exact Or.inr (Or.inl ⟨f.1, hf⟩)
  · cases hs

theorem suppliesType_inputReferences {r : TypeReference} (hr : r ∈ (c.mark e).inputReferences)
    (hs : r.supplied = true) : e.SuppliesType r.use.2 := by
  simp only [Entity.inputReferences, plans_mark, List.mem_append, List.mem_map] at hr
  rcases hr with ⟨p, hplan, rfl⟩ | ⟨_, -, rfl⟩
  · exact (suppliesType_plan hplan hs).2.1
  · cases hs

theorem suppliesType_mutationInputReferences {r : TypeReference}
    (hr : r ∈ (c.mark e).mutationInputReferences) (hs : r.supplied = true) :
    e.SuppliesType r.use.2 := by
  simp only [Entity.mutationInputReferences, plans_mark, List.mem_append, List.mem_flatMap,
    List.mem_map] at hr
  rcases hr with ⟨p, hplan, a, ha, rfl⟩ | ⟨_, -, rfl⟩
  · exact (suppliesType_plan hplan hs).2.2 a ha
  · cases hs

theorem suppliesType_declarationReferences {r : TypeReference}
    (hr : r ∈ (c.mark e).declarationReferences) (hs : r.supplied = true) :
    e.SuppliesType r.use.2 := by
  have hown {ds : List Sdl.Declaration}
      (hm : r ∈ ds.flatMap fun d => d.typeUses.map TypeReference.own) : False := by
    obtain ⟨d, -, hu⟩ := List.mem_flatMap.mp hm
    obtain ⟨u, -, rfl⟩ := List.mem_map.mp hu
    cases hs
  simp only [Entity.declarationReferences, List.mem_append, List.mem_ite_nil_right] at hr
  rcases hr with (((hr | ⟨-, hr⟩) | hr) | hr) | hr
  · exact suppliesType_objectReferences hr hs
  · exact (hown hr).elim
  · exact suppliesType_inputReferences hr hs
  · exact suppliesType_mutationInputReferences hr hs
  · exact (hown hr).elim

theorem suppliesType_idType (hs : (c.mark e).idIsLiteral = true) :
    e.SuppliesType (c.mark e).idType := by
  unfold Entity.idIsLiteral at hs
  unfold Entity.idType
  rw [plans_mark] at hs ⊢
  cases hf : e.plans.find? fun p => p.name = idField with
  | none => simp [hf] at hs
  | some p =>
    rw [hf] at hs
    exact (suppliesType_plan (List.mem_of_find?_eq_some hf) hs).1

theorem suppliesType_argumentReferences {op : RootOperation} {r : TypeReference}
    (hr : r ∈ (c.mark e).argumentReferences op) (hs : r.supplied = true) :
    e.SuppliesType r.use.2 := by
  have hown {as : List Sdl.Argument}
      (hm : r ∈ as.map fun a => TypeReference.own (.input, a.type)) : False := by
    obtain ⟨a, -, rfl⟩ := List.mem_map.mp hm
    cases hs
  cases op with
  | update =>
    simp only [Entity.argumentReferences, List.mem_cons, List.not_mem_nil, or_false] at hr
    rcases hr with rfl | rfl
    · exact suppliesType_idType hs
    · cases hs
  | all | get =>
    simp only [Entity.argumentReferences, Entity.manualQueryArguments, manualArguments_mark,
      List.mem_append, List.map_map, List.mem_map (f := _ ∘ _)] at hr
    rcases hr with hr | ⟨a, ha, rfl⟩
    · exact (hown hr).elim
    · exact Or.inr (Or.inr ⟨a, ha, rfl⟩)
  | create | updateMany | updateBulk | delete => exact (hown hr).elim

theorem suppliesType_of_supplied {r : TypeReference} (hr : r ∈ (c.mark e).typeReferences)
    (hs : r.supplied = true) : e.SuppliesType r.use.2 := by
  simp only [Entity.typeReferences, List.mem_append] at hr
  rcases hr with hr | hr
  · exact suppliesType_declarationReferences hr hs
  · simp only [Entity.operationReferences, List.mem_ite_nil_right, List.mem_flatMap,
      List.mem_append, List.mem_singleton] at hr
    obtain ⟨-, op, -, hr | rfl⟩ := hr
    · exact suppliesType_argumentReferences hr hs
    · cases hs

/-- A document with the shared declarations is closed: each of its references is a text supplied
with the entity, or resolves to a scalar or to a declaration of the kind its place asks for. -/
theorem typeReferences_closed (h : c.document settings source = .ok doc)
    (hp : settings.emitPrelude = true) :
    c.typeReferences.map TypeReference.use = doc.typeUses ∧
      ∀ e ∈ c.entities, ∀ r ∈ (c.mark e).typeReferences,
        (r.supplied = true → e.SuppliesType r.use.2) ∧
          (r.supplied = false → doc.Resolves r.use) := by
  have hprelude : doc.emitPrelude = true := (emitPrelude_of_document h).trans hp
  refine ⟨uses_of_document h, fun e he r hr => ⟨suppliesType_of_supplied hr, ?_⟩⟩
  exact resolves_typeReferences h hprelude he hr

theorem library_typeReferences_closed : ∃ doc, library.document .default .none = .ok doc ∧
    Settings.default.emitPrelude = true ∧
    library.typeReferences.map TypeReference.use = doc.typeUses ∧
      ∀ e ∈ library.entities, ∀ r ∈ (library.mark e).typeReferences,
        (r.supplied = true → e.SuppliesType r.use.2) ∧
          (r.supplied = false → doc.Resolves r.use) :=
  ⟨_, document_library .none, rfl, typeReferences_closed (document_library .none) rfl⟩

end Catalog

end DocumentSchema

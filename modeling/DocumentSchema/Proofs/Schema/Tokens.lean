import DocumentSchema.Proofs.Schema.Closure
import DocumentSchema.Proofs.Schema.OperationNames
import DocumentSchema.Proofs.Sdl.Writer

/-!
# Tokens of generated schemas

Generated names are made of declared names and fixed words, and the types that a
generator makes resolve to such names. So a document is made of tokens when the
texts that are supplied with its entities are.
-/
namespace DocumentSchema

/-- What is written as it is supplied with the entity: types that are tokens, and arguments with
valid names. -/
structure Entity.SuppliesTokens (e : Entity) : Prop where
  types : ∀ type, e.SuppliesType type → IsToken type
  names : ∀ a ∈ e.manualArguments, isName a.name = true

namespace Sdl

def Operation.names (op : Operation) : List String := op.name :: op.arguments.map Argument.name

def Declaration.fieldNames (d : Declaration) : List String :=
  d.fields.flatMap fun f => f.toOperation.names

@[simp] theorem Field.names_toOperation_plain (name type : String) :
    (plain name type).toOperation.names = [name] := rfl

def Operation.types (op : Operation) : List String := op.arguments.map Argument.type ++ [op.returns]

theorem Operation.ofTokens {op : Operation} (hn : ∀ n ∈ op.names, IsToken n)
    (ht : ∀ t ∈ op.types, IsToken t) : op.OfTokens := by
  refine ⟨hn _ List.mem_cons_self, fun a ha => ⟨hn _ ?_, ht _ ?_⟩, ht _ (by simp [types])⟩
  · exact List.mem_cons_of_mem _ (List.mem_map_of_mem ha)
  · exact List.mem_append_left _ (List.mem_map_of_mem ha)

theorem Declaration.ofTokens {d : Declaration} (hname : IsToken d.name)
    (hn : ∀ n ∈ d.fieldNames, IsToken n) (ht : ∀ u ∈ d.typeUses, IsToken u.2) : d.OfTokens := by
  refine ⟨hname, fun f hf => Operation.ofTokens (fun n hnf => ?_) ?_⟩
  · exact hn n (List.mem_flatMap.mpr ⟨f, hf, hnf⟩)
  · intro t htf
    have huse : ∃ u ∈ f.typeUses d.kind, u.2 = t := by
      simpa [Operation.types, Field.toOperation, Field.typeUses, eq_comm] using htf
    obtain ⟨u, hu, rfl⟩ := huse
    exact ht u (List.mem_flatMap.mpr ⟨f, hf, hu⟩)

end Sdl

theorem FilterOp.isWord_suffix (op : FilterOp) : IsWord op.suffix :=
  isWord_of_all (by cases op <;> decide)

theorem MutationOp.isWord_suffix (op : MutationOp) : IsWord op.suffix :=
  isWord_of_all (by cases op <;> decide)

theorem RootOperation.isWord_name {entity : String} (h : IsWord entity) (op : RootOperation) :
    IsWord (op.name entity) := by
  have hverb : IsWord op.verb := isWord_of_all (by cases op <;> decide)
  have hending : IsWord op.ending := isWord_of_all (by cases op <;> decide)
  rw [name_eq_append]
  exact isWord_append hverb (isWord_append h hending)

namespace Entity

/-- The arguments of root operations that are named alike for all entities. -/
def fixedArguments : List String :=
  [idField, "_ids", "Updates", "Match", "OR", "SORT", "SORTS"] ++
    pagingArguments.map Sdl.Argument.name

theorem isWord_fixedArgument {name : String} (h : name ∈ fixedArguments) : IsWord name := by
  have hall : ∀ name ∈ fixedArguments, name.toList.all isNamePart = true := by decide
  exact isWord_of_all (hall name h)

section Names

variable {e : Entity} (hv : e.validate = .ok ())

include hv

theorem isWord_name : IsWord e.name := isWord_of_isName (validate_eq_ok.mp hv).1

theorem isWord_of_mem_declaredNames {n : String} (hn : n ∈ e.declaredNames) : IsWord n :=
  isWord_of_isName ((validate_eq_ok.mp hv).2.1 n hn)

theorem isWord_plan {p : FieldPlan} (hp : p ∈ e.plans) : IsWord p.name := by
  have hfield : p.name ∈ e.fields.names := List.mem_map_of_mem (isFor_of_mem_plans hp).1
  exact isWord_of_mem_declaredNames hv (by simp [declaredNames, hfield])

theorem isWord_filter {p : FieldPlan} (hp : p ∈ e.plans) {a : FilterArgument}
    (ha : a ∈ p.filters) : IsWord a.name := by
  have hfield := field_of_mem_filterArguments? (isFor_of_mem_plans hp).2.filters ha
  rw [FilterArgument.name, hfield]
  exact isWord_append (isWord_plan hv hp) a.op.isWord_suffix

theorem isWord_mutation {p : FieldPlan} (hp : p ∈ e.plans) {a : MutationArgument}
    (ha : a ∈ p.mutations) : IsWord a.name := by
  obtain ⟨ms, hms, heq⟩ := (isFor_of_mem_plans hp).2.mutations
  rw [heq] at ha
  split at ha
  · cases ha
  · obtain ⟨ops, -, rfl⟩ := Option.map_eq_some_iff.mp hms
    obtain ⟨op, -, rfl⟩ := List.mem_map.mp ha
    exact isWord_append (isWord_plan hv hp) op.1.isWord_suffix

theorem isWord_relationship {r : String × Relationship} (hr : r ∈ e.relationships.entries) :
    IsWord r.1 := by
  have hname : r.1 ∈ e.relationships.names := List.mem_map_of_mem hr
  exact isWord_of_mem_declaredNames hv (by simp [declaredNames, hname])

theorem isWord_resolved {f : String × String} (hf : f ∈ e.resolvedFields.entries) :
    IsWord f.1 := by
  have hname : f.1 ∈ e.resolvedFields.names := List.mem_map_of_mem hf
  exact isWord_of_mem_declaredNames hv (by simp [declaredNames, hname])

theorem isWord_filterArgument {a : Sdl.Argument} (ha : a ∈ e.filterArguments) : IsWord a.name := by
  obtain ⟨p, hp, ha⟩ := List.mem_flatMap.mp ha
  obtain ⟨x, hx, rfl⟩ := List.mem_map.mp ha
  exact isWord_filter hv hp hx

theorem isWord_declaration {d : Sdl.Declaration} (hd : d ∈ e.declarations) : IsWord d.name := by
  obtain ⟨ending, hending, hname⟩ := declares_iff.mp ⟨d, hd, rfl, rfl⟩
  rw [hname]
  exact isWord_append (isWord_name hv) (isWord_ending hending)

theorem isWord_objectType : ∀ n ∈ e.objectType.fieldNames, IsWord n := by
  simp only [Sdl.Declaration.fieldNames, objectType, List.forall_mem_flatMap,
    List.forall_mem_append, List.forall_mem_map]
  refine ⟨⟨fun p hp => ?_, fun f hf => ?_⟩, fun r hr => ?_⟩
  · simpa using isWord_plan hv hp
  · simpa using isWord_resolved hv hf
  · have hsort : IsWord "SORT" := isWord_of_all (by decide)
    have hsorts : IsWord "SORTS" := isWord_of_all (by decide)
    have hname := isWord_relationship hv hr
    simp only [Sdl.Operation.names, Sdl.Field.toOperation, Relationship.resolver,
      Relationship.resolverArguments]
    cases r.2.isArray <;> simp [hname, hsort, hsorts]

theorem isWord_resultTypes : ∀ d ∈ e.resultTypes, ∀ n ∈ d.fieldNames, IsWord n := by
  have hname := isWord_name hv
  have hplural : IsWord (e.name ++ "s") := isWord_append hname (isWord_of_all (by decide))
  have hmeta : IsWord "Meta" := isWord_of_all (by decide)
  have hsuccess : IsWord "success" := isWord_of_all (by decide)
  simp [resultTypes, Sdl.Declaration.fieldNames, forall_and, hname, hplural, hmeta, hsuccess]

theorem isWord_inputType : ∀ n ∈ e.inputType.fieldNames, IsWord n := by
  simp only [Sdl.Declaration.fieldNames, inputType, List.forall_mem_flatMap,
    List.forall_mem_append, List.forall_mem_map]
  refine ⟨fun p hp => ?_, fun r hr => ?_⟩
  · simpa using isWord_plan hv hp
  · simpa [Relationship.inputField] using isWord_relationship hv hr

theorem isWord_mutationInputType : ∀ n ∈ e.mutationInputType.fieldNames, IsWord n := by
  simp only [Sdl.Declaration.fieldNames, mutationInputType, List.forall_mem_flatMap,
    List.forall_mem_append, List.forall_mem_map]
  refine ⟨fun p hp a ha => ?_, fun r hr => ?_⟩
  · simpa [Sdl.Argument.toField, MutationArgument.toArgument] using isWord_mutation hv hp ha
  · have hname : IsWord (r.2.mutationArgument r.1).name :=
      isWord_append (isWord_relationship hv hr) (r.2.mutationArgument r.1).op.isWord_suffix
    simpa [Sdl.Argument.toField, MutationArgument.toArgument] using hname

theorem isWord_sortType : ∀ n ∈ e.sortType.fieldNames, IsWord n := by
  simp only [Sdl.Declaration.fieldNames, sortType, List.forall_mem_flatMap, List.forall_mem_map]
  intro p hp
  simpa using isWord_plan hv (List.mem_of_mem_filter hp)

theorem isWord_filtersType : ∀ n ∈ e.filtersType.fieldNames, IsWord n := by
  have hor : IsWord e.orArgument.name := isWord_of_all (s := "OR") (by decide)
  simp only [Sdl.Declaration.fieldNames, filtersType, List.forall_mem_flatMap, List.forall_mem_map,
    List.forall_mem_append, List.forall_mem_singleton]
  refine ⟨fun a ha => ?_, ?_⟩
  · simpa [Sdl.Argument.toField] using isWord_filterArgument hv ha
  · simpa [Sdl.Argument.toField] using hor

theorem isWord_fieldNames : ∀ d ∈ e.declarations, ∀ n ∈ d.fieldNames, IsWord n := by
  have harray : ∀ n ∈ e.arrayMutationInputType.fieldNames, IsWord n := by
    have hindex : IsWord "index" := isWord_of_all (by decide)
    have hupdates : IsWord "Updates" := isWord_of_all (by decide)
    simp [arrayMutationInputType, Sdl.Declaration.fieldNames, hindex, hupdates]
  intro d hd
  simp only [declarations, List.mem_append, List.mem_ite_nil_right, List.mem_cons,
    List.not_mem_nil, or_false] at hd
  rcases hd with (((rfl | ⟨-, hd⟩) | rfl | rfl) | ⟨-, rfl⟩) | rfl | rfl
  · exact isWord_objectType hv
  · exact isWord_resultTypes hv d hd
  · exact isWord_inputType hv
  · exact isWord_mutationInputType hv
  · exact harray
  · exact isWord_sortType hv
  · exact isWord_filtersType hv

theorem isWord_dateFormat {a : Sdl.Argument} (ha : a ∈ e.dateFormats) : IsWord a.name := by
  obtain ⟨f, hf, rfl⟩ := List.mem_map.mp ha
  obtain ⟨⟨name, d⟩, hd, rfl⟩ := List.mem_map.mp hf
  have hfield : name ∈ e.fields.names := List.mem_map_of_mem (List.mem_of_mem_filter hd)
  have hname : IsWord name := isWord_of_mem_declaredNames hv (by simp [declaredNames, hfield])
  exact isWord_append hname (isWord_of_all (by decide))

/-- The arguments of root operations have fixed names, names that are checked with the entity, or
the names of manual arguments. -/
theorem isWord_argument (hm : ∀ a ∈ e.manualArguments, isName a.name = true) {op : RootOperation}
    {a : Sdl.Argument} (ha : a ∈ e.arguments op) : IsWord a.name := by
  have hmanual {a : Sdl.Argument} (ha : a ∈ e.manualQueryArguments) : IsWord a.name := by
    obtain ⟨m, hmem, rfl⟩ := List.mem_map.mp ha
    exact isWord_of_isName (hm m hmem)
  cases op with
  | create =>
    rw [List.mem_singleton.mp ha]
    exact isWord_name hv
  | all =>
    simp only [arguments, List.mem_append] at ha
    rcases ha with ((((ha | ha) | ha) | ha) | ha) | ha
    · exact isWord_filterArgument hv ha
    · rw [List.mem_singleton.mp ha]
      exact isWord_fixedArgument (by simp [orArgument, fixedArguments])
    · simp only [List.mem_cons, List.not_mem_nil, or_false] at ha
      rcases ha with rfl | rfl <;> exact isWord_fixedArgument (by simp [fixedArguments])
    · exact isWord_fixedArgument (List.mem_append_right _ (List.mem_map_of_mem ha))
    · exact isWord_dateFormat hv ha
    · exact hmanual ha
  | get =>
    simp only [arguments, List.mem_append] at ha
    rcases ha with (ha | ha) | ha
    · rw [List.mem_singleton.mp ha]
      exact isWord_fixedArgument (by simp [idField, fixedArguments])
    · exact isWord_dateFormat hv ha
    · exact hmanual ha
  | delete =>
    rw [List.mem_singleton.mp ha]
    exact isWord_fixedArgument (by simp [idField, fixedArguments])
  | update | updateMany | updateBulk =>
    simp only [arguments, List.mem_cons, List.not_mem_nil, or_false] at ha
    rcases ha with rfl | rfl <;> exact isWord_fixedArgument (by simp [idField, fixedArguments])

theorem isWord_operation (hm : ∀ a ∈ e.manualArguments, isName a.name = true)
    (op : RootOperation) : ∀ n ∈ (e.operation op).names, IsWord n := by
  simp only [Sdl.Operation.names, operation, List.forall_mem_cons, List.forall_mem_map]
  exact ⟨op.isWord_name (isWord_name hv), fun a ha => isWord_argument hv hm ha⟩

end Names

end Entity

namespace Catalog

variable {c : Catalog} {settings : Settings} {source : FragmentSource} {doc : SchemaDocument}

theorem exists_entity_of_mem (h : c.document settings source = .ok doc) {s : EntitySchema}
    (hm : s ∈ doc.entities) :
    ∃ e ∈ c.entities, (c.mark e).validate = .ok () ∧ s = (c.mark e).permissiveSchema source := by
  rw [entities_of_document h] at hm
  obtain ⟨e, he, rfl⟩ := List.mem_map.mp hm
  refine ⟨e, he, ?_, rfl⟩
  rw [validate_mark]
  exact (validate_eq_ok.mp (validate_of_document h) e he).1

theorem isWord_of_resolves (h : c.document settings source = .ok doc) {u : Sdl.TypeUse}
    (hu : doc.Resolves u) : IsWord (bareName u.2) := by
  have hscalar : ∀ t ∈ doc.scalars, t.toList.all isNamePart = true := by
    unfold SchemaDocument.scalars
    cases doc.emitPrelude <;> decide
  have hprelude : ∀ d ∈ Sdl.preludeDeclarations, d.name.toList.all isNamePart = true := by decide
  rcases hu with hu | ⟨d, hd, -, hname⟩
  · exact isWord_of_all (hscalar _ hu)
  · rw [← hname]
    rcases List.mem_append.mp hd with hd | hd
    · rw [List.mem_ite_nil_right] at hd
      exact isWord_of_all (hprelude d hd.2)
    · obtain ⟨s, hm, hd⟩ := List.mem_flatMap.mp hd
      obtain ⟨e, -, hv, rfl⟩ := exists_entity_of_mem h hm
      exact Entity.isWord_declaration hv hd

/-- The references of a catalog do not depend on the settings, and with the shared declarations
those that are not supplied resolve. -/
theorem isToken_of_mem_typeUses (h : c.document settings source = .ok doc)
    (hs : ∀ e ∈ c.entities, e.SuppliesTokens) {u : Sdl.TypeUse} (hu : u ∈ doc.typeUses) :
    IsToken u.2 := by
  rw [← uses_of_document h] at hu
  obtain ⟨r, hr, rfl⟩ := List.mem_map.mp hu
  obtain ⟨e, he, hr⟩ := List.mem_flatMap.mp hr
  cases hsupplied : r.supplied with
  | true => exact (hs e he).types _ (suppliesType_of_supplied hr hsupplied)
  | false =>
    obtain ⟨hsettings, hc, hstrict, -⟩ := document_eq_ok.mp h
    have hfull : c.document { settings with emitPrelude := true } source =
        .ok (c.permissiveDocument { settings with emitPrelude := true } source) :=
      document_eq_ok.mpr ⟨hsettings, hc, hstrict, rfl⟩
    have hresolves := resolves_typeReferences hfull rfl he hr hsupplied
    exact isToken_of_bareName (isWord_of_resolves hfull hresolves)

theorem declaration_ofTokens (h : c.document settings source = .ok doc)
    (hs : ∀ e ∈ c.entities, e.SuppliesTokens) {s : EntitySchema} (hm : s ∈ doc.entities)
    {d : Sdl.Declaration} (hd : d ∈ s.declarations) : d.OfTokens := by
  have htypes : ∀ u ∈ d.typeUses, IsToken u.2 := fun u hu =>
    isToken_of_mem_typeUses h hs (List.mem_flatMap.mpr
      ⟨s, hm, List.mem_append_left _ (List.mem_flatMap.mpr ⟨d, hd, hu⟩)⟩)
  obtain ⟨e, -, hv, rfl⟩ := exists_entity_of_mem h hm
  exact Sdl.Declaration.ofTokens (isToken_of_isWord (Entity.isWord_declaration hv hd))
    (fun n hn => isToken_of_isWord (Entity.isWord_fieldNames hv d hd n hn)) htypes

theorem operation_ofTokens (h : c.document settings source = .ok doc)
    (hs : ∀ e ∈ c.entities, e.SuppliesTokens) {s : EntitySchema} (hm : s ∈ doc.entities)
    {op : Sdl.Operation} (hop : op ∈ s.queries ++ s.mutations) : op.OfTokens := by
  have htypes : ∀ t ∈ op.types, IsToken t := by
    intro t ht
    have huse : ∃ u ∈ s.operationUses op, u.2 = t := by
      simpa [Sdl.Operation.types, EntitySchema.operationUses, eq_comm] using ht
    obtain ⟨u, hu, rfl⟩ := huse
    exact isToken_of_mem_typeUses h hs (List.mem_flatMap.mpr
      ⟨s, hm, List.mem_append_right _ (List.mem_flatMap.mpr ⟨op, hop, hu⟩)⟩)
  obtain ⟨e, he, hv, rfl⟩ := exists_entity_of_mem h hm
  have hnames : ∀ a ∈ (c.mark e).manualArguments, isName a.name = true := by
    rw [manualArguments_mark]
    exact (hs e he).names
  have hmem {ops : List RootOperation} (hop : op ∈ (c.mark e).operations ops) :
      ∃ o, op = (c.mark e).operation o := by
    rw [Entity.operations, List.mem_ite_nil_right, List.mem_map] at hop
    obtain ⟨-, o, -, rfl⟩ := hop
    exact ⟨o, rfl⟩
  obtain ⟨o, rfl⟩ := (List.mem_append.mp hop).elim hmem hmem
  exact Sdl.Operation.ofTokens
    (fun n hn => isToken_of_isWord (Entity.isWord_operation hv hnames o n hn)) htypes

end Catalog

end DocumentSchema

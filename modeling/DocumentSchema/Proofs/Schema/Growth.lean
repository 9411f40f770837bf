import DocumentSchema.Proofs.Schema.OperationNames
import DocumentSchema.Proofs.Schema.Plans
import Mathlib.Data.List.Flatten

/-!
# Added fields

A field that is added to an entity, at any place, adds to the schema of the
entity what is generated for it, and leaves everything else as it is.
-/
namespace DocumentSchema

/-- What was there stays in its order, and only the added entries are new. -/
structure Grows {α : Type} (added old new : List α) : Prop where
  sublist : old.Sublist new
  perm : new.Perm (old ++ added)

namespace Grows

variable {α β : Type} {added old new : List α}

theorem refl (l : List α) : Grows [] l l := ⟨.refl l, by rw [List.append_nil]⟩

theorem insert (before : List α) (a : α) (after : List α) :
    Grows [a] (before ++ after) (before ++ a :: after) where
  sublist := (List.sublist_cons_self a after).append_left before
  perm := by
    rw [List.append_assoc]
    exact (List.perm_append_singleton a after).symm.append_left before

theorem eq (h : Grows [] old new) : new = old := by
  have hperm := h.perm
  rw [List.append_nil] at hperm
  exact (h.sublist.eq_of_length hperm.length_eq.symm).symm

theorem append {added' old' new' : List α} (h : Grows added old new)
    (h' : Grows added' old' new') : Grows (added ++ added') (old ++ old') (new ++ new') where
  sublist := h.sublist.append h'.sublist
  perm := by
    have hswap : (added ++ (old' ++ added')).Perm (old' ++ (added ++ added')) := by
      rw [← List.append_assoc, ← List.append_assoc]
      exact List.perm_append_comm.append_right added'
    have happend := h.perm.append h'.perm
    rw [List.append_assoc] at happend ⊢
    exact happend.trans (hswap.append_left old)

theorem append_right (h : Grows added old new) (rest : List α) :
    Grows added (old ++ rest) (new ++ rest) := by
  simpa using h.append (refl rest)

theorem append_left (h : Grows added old new) (first : List α) :
    Grows added (first ++ old) (first ++ new) := by
  simpa using (refl first).append h

theorem flatMap (h : Grows added old new) (f : α → List β) :
    Grows (added.flatMap f) (old.flatMap f) (new.flatMap f) where
  sublist := h.sublist.flatMap f
  perm := by
    rw [← List.flatMap_append]
    exact h.perm.flatMap_right f

theorem filterMap (h : Grows added old new) (f : α → Option β) :
    Grows (added.filterMap f) (old.filterMap f) (new.filterMap f) where
  sublist := h.sublist.filterMap f
  perm := by
    rw [← List.filterMap_append]
    exact h.perm.filterMap f

theorem map (h : Grows added old new) (f : α → β) :
    Grows (added.map f) (old.map f) (new.map f) where
  sublist := h.sublist.map f
  perm := by
    rw [← List.map_append]
    exact h.perm.map f

theorem filter (h : Grows added old new) (p : α → Bool) :
    Grows (added.filter p) (old.filter p) (new.filter p) where
  sublist := h.sublist.filter p
  perm := by
    rw [← List.filter_append]
    exact h.perm.filter p

theorem find?_eq (h : Grows added old new) {p : α → Bool} (hp : ∀ a ∈ added, p a = false) :
    new.find? p = old.find? p := by
  have hfilter := h.filter p
  rw [List.filter_eq_nil_iff.mpr (by simpa using hp)] at hfilter
  rw [← List.head?_filter, ← List.head?_filter, hfilter.eq]

end Grows

/-- The list with a pair put at a position, or at the end where the list is shorter. -/
def NamedList.insertAt {α : Type} (l : NamedList α) (i : Nat) (name : String) (value : α)
    (h : name ∉ l.names) : NamedList α where
  entries := l.entries.take i ++ (name, value) :: l.entries.drop i
  distinct := by
    rw [(List.perm_middle.map Prod.fst).nodup_iff, List.take_append_drop]
    exact List.nodup_cons.mpr ⟨h, l.distinct⟩

theorem NamedList.grows_insertAt {α : Type} (l : NamedList α) (i : Nat) {name : String} (value : α)
    (h : name ∉ l.names) : Grows [(name, value)] l.entries (l.insertAt i name value h).entries := by
  have hinsert := Grows.insert (l.entries.take i) (name, value) (l.entries.drop i)
  rwa [List.take_append_drop] at hinsert

/-- A declaration keeps its kind and its name and gains fields. -/
structure Sdl.Declaration.Gains (added : List Field) (old new : Declaration) : Prop where
  kind : new.kind = old.kind
  name : new.name = old.name
  fields : Grows added old.fields new.fields

theorem Sdl.Declaration.Gains.eq {old new : Declaration} (h : Gains [] old new) : old = new := by
  obtain ⟨hkind, hname, hfields⟩ := h
  have hfields := hfields.eq
  cases old
  cases new
  cases hkind
  cases hname
  cases hfields
  rfl

structure Sdl.Operation.Gains (added : List Argument) (old new : Operation) : Prop where
  name : new.name = old.name
  returns : new.returns = old.returns
  arguments : Grows added old.arguments new.arguments

theorem Sdl.Operation.Gains.eq {old new : Operation} (h : Gains [] old new) : old = new := by
  obtain ⟨hname, hreturns, harguments⟩ := h
  have harguments := harguments.eq
  cases old
  cases new
  cases hname
  cases hreturns
  cases harguments
  rfl

namespace Entity

/-- The entity with one more field at a position. -/
def withField (e : Entity) (i : Nat) (field : String) (d : Descriptor)
    (h : field ∉ e.fields.names) : Entity :=
  { e with fields := e.fields.insertAt i field d h }

/-- What an added field adds to the fields of a declaration of the entity. -/
def addedFields (e : Entity) (field : String) (d : Descriptor) (declaration : String) :
    List Sdl.Field :=
  if declaration = e.name then (readType? .output d).toList.map (.plain field)
  else if declaration = TypeName.input e.name then (readType? .input d).toList.map (.plain field)
  else if declaration = TypeName.mutationInput e.name then
    ((mutationArguments? field d).getD []).map fun a => a.toArgument.toField
  else if declaration = TypeName.sort e.name then
    if d.isSupported && !d.isJson then [.plain field "Int"] else []
  else if declaration = TypeName.filters e.name then
    ((filterArguments? field d).getD []).map fun a => a.toArgument.toField
  else []

def addedArguments (e : Entity) (field : String) (d : Descriptor) (query : String) :
    List Sdl.Argument :=
  (if query = RootOperation.all.name e.name then
    ((filterArguments? field d).getD []).map FilterArgument.toArgument else []) ++
  if d.isDate then [⟨field ++ "_format", "String"⟩] else []

def addedDiagnostics (e : Entity) (field : String) : Descriptor → List Diagnostic
  | .unsupported raw => [⟨e.name, field, raw⟩]
  | _ => []

section Added

variable {e : Entity} {field : String} (i : Nat) (d : Descriptor) (h : field ∉ e.fields.names)

theorem grows_plans :
    Grows (FieldPlan.of? field d).toList e.plans (e.withField i field d h).plans := by
  have hplans := (e.fields.grows_insertAt i d h).filterMap fun f => FieldPlan.of? f.1 f.2
  have hone : [(field, d)].filterMap (fun f => FieldPlan.of? f.1 f.2) =
      (FieldPlan.of? field d).toList := by
    cases hp : FieldPlan.of? field d <;> simp [hp]
  rwa [hone] at hplans

theorem grows_diagnostics :
    Grows (e.addedDiagnostics field d) e.diagnostics (e.withField i field d h).diagnostics := by
  have hdiagnostics := (e.fields.grows_insertAt i d h).filterMap fun f =>
    match f.2 with
    | .unsupported raw => some (⟨e.name, f.1, raw⟩ : Diagnostic)
    | _ => none
  cases d <;> exact hdiagnostics

theorem grows_objectType :
    Grows ((readType? .output d).toList.map (.plain field)) e.objectType.fields
      (e.withField i field d h).objectType.fields := by
  have hplans := (grows_plans i d h).map fun p => Sdl.Field.plain p.name p.output
  rw [FieldPlan.map_output] at hplans
  exact (hplans.append_right _).append_right _

theorem grows_inputType :
    Grows ((readType? .input d).toList.map (.plain field)) e.inputType.fields
      (e.withField i field d h).inputType.fields := by
  have hplans := (grows_plans i d h).map fun p => Sdl.Field.plain p.name p.input
  rw [FieldPlan.map_input] at hplans
  exact hplans.append_right _

theorem grows_mutationInputType (hid : field ≠ idField) :
    Grows (((mutationArguments? field d).getD []).map fun a => a.toArgument.toField)
      e.mutationInputType.fields (e.withField i field d h).mutationInputType.fields := by
  have hplans := (grows_plans i d h).flatMap FieldPlan.mutations
  rw [FieldPlan.flatMap_mutations, if_neg hid] at hplans
  exact (hplans.append_right _).map _

theorem grows_sortType :
    Grows (if d.isSupported && !d.isJson then [.plain field "Int"] else []) e.sortType.fields
      (e.withField i field d h).sortType.fields := by
  have hplans := ((grows_plans i d h).filter fun p => !p.descriptor.isJson).map fun p =>
    Sdl.Field.plain p.name "Int"
  rwa [FieldPlan.map_sort] at hplans

theorem grows_filterArguments :
    Grows (((filterArguments? field d).getD []).map FilterArgument.toArgument) e.filterArguments
      (e.withField i field d h).filterArguments := by
  have hplans := (grows_plans i d h).flatMap fun p => p.filters.map FilterArgument.toArgument
  rwa [FieldPlan.flatMap_filters field d fun _ a => a.toArgument] at hplans

theorem grows_filtersType :
    Grows (((filterArguments? field d).getD []).map fun a => a.toArgument.toField)
      e.filtersType.fields (e.withField i field d h).filtersType.fields := by
  have hfields := ((grows_filterArguments i d h).append_right [e.orArgument]).map Sdl.Argument.toField
  rwa [List.map_map] at hfields

theorem grows_dateFormats :
    Grows (if d.isDate then [⟨field ++ "_format", "String"⟩] else []) e.dateFormats
      (e.withField i field d h).dateFormats := by
  have hdates := (((e.fields.grows_insertAt i d h).filter fun f => f.2.isDate).map Prod.fst).map
    fun f => (⟨f ++ "_format", "String"⟩ : Sdl.Argument)
  have hone : (([(field, d)].filter fun f => f.2.isDate).map Prod.fst).map
      (fun f => (⟨f ++ "_format", "String"⟩ : Sdl.Argument)) =
        if d.isDate then [⟨field ++ "_format", "String"⟩] else [] := by
    cases hd : d.isDate <;> simp [hd]
  rwa [hone] at hdates

theorem idType_withField (hid : field ≠ idField) : (e.withField i field d h).idType = e.idType := by
  have hne : ∀ p ∈ (FieldPlan.of? field d).toList, decide (p.name = idField) = false := by
    intro p hp
    rw [Option.mem_toList] at hp
    simpa [(FieldPlan.isFor_of_of? hp).name_eq] using hid
  rw [idType, idType, (grows_plans i d h).find?_eq hne]

theorem gains_resultTypes :
    List.Forall₂ (fun a b => Sdl.Declaration.Gains (e.addedFields field d a.name) a b)
      e.resultTypes (e.withField i field d h).resultTypes := by
  have hsame : (e.withField i field d h).resultTypes = e.resultTypes := rfl
  rw [hsame, List.forall₂_same]
  intro a ha
  have hadded : e.addedFields field d a.name = [] := by
    simp only [resultTypes, List.mem_cons, List.not_mem_nil, or_false] at ha
    rcases ha with rfl | rfl | rfl | rfl | rfl <;>
      simp [addedFields, TypeName.input, TypeName.mutationInput, TypeName.sort, TypeName.filters,
        TypeName.queryResults, TypeName.singleQueryResult, TypeName.mutationResult,
        TypeName.mutationResultMulti, TypeName.bulkMutationResult]
  rw [hadded]
  exact ⟨rfl, rfl, .refl _⟩

theorem gains_objectType :
    Sdl.Declaration.Gains (e.addedFields field d e.name) e.objectType
      (e.withField i field d h).objectType := by
  rw [addedFields, if_pos rfl]
  exact ⟨rfl, rfl, grows_objectType i d h⟩

theorem gains_inputType :
    Sdl.Declaration.Gains (e.addedFields field d (TypeName.input e.name)) e.inputType
      (e.withField i field d h).inputType := by
  have hadded : e.addedFields field d (TypeName.input e.name) =
      (readType? .input d).toList.map (.plain field) := by
    simp [addedFields, TypeName.input]
  rw [hadded]
  exact ⟨rfl, rfl, grows_inputType i d h⟩

theorem gains_mutationInputType (hid : field ≠ idField) :
    Sdl.Declaration.Gains (e.addedFields field d (TypeName.mutationInput e.name))
      e.mutationInputType (e.withField i field d h).mutationInputType := by
  have hadded : e.addedFields field d (TypeName.mutationInput e.name) =
      ((mutationArguments? field d).getD []).map fun a => a.toArgument.toField := by
    simp [addedFields, TypeName.input, TypeName.mutationInput]
  rw [hadded]
  exact ⟨rfl, rfl, grows_mutationInputType i d h hid⟩

theorem gains_arrayMutationInputType :
    Sdl.Declaration.Gains (e.addedFields field d (TypeName.arrayMutationInput e.name))
      e.arrayMutationInputType (e.withField i field d h).arrayMutationInputType := by
  have hadded : e.addedFields field d (TypeName.arrayMutationInput e.name) = [] := by
    simp [addedFields, TypeName.input, TypeName.mutationInput, TypeName.sort, TypeName.filters,
      TypeName.arrayMutationInput]
  rw [hadded]
  exact ⟨rfl, rfl, .refl _⟩

theorem gains_sortType :
    Sdl.Declaration.Gains (e.addedFields field d (TypeName.sort e.name)) e.sortType
      (e.withField i field d h).sortType := by
  have hadded : e.addedFields field d (TypeName.sort e.name) =
      if d.isSupported && !d.isJson then [.plain field "Int"] else [] := by
    simp [addedFields, TypeName.input, TypeName.mutationInput, TypeName.sort]
  rw [hadded]
  exact ⟨rfl, rfl, grows_sortType i d h⟩

theorem gains_filtersType :
    Sdl.Declaration.Gains (e.addedFields field d (TypeName.filters e.name)) e.filtersType
      (e.withField i field d h).filtersType := by
  have hadded : e.addedFields field d (TypeName.filters e.name) =
      ((filterArguments? field d).getD []).map fun a => a.toArgument.toField := by
    simp [addedFields, TypeName.input, TypeName.mutationInput, TypeName.sort, TypeName.filters]
  rw [hadded]
  exact ⟨rfl, rfl, grows_filtersType i d h⟩

theorem gains_declarations (hid : field ≠ idField) :
    List.Forall₂ (fun a b => Sdl.Declaration.Gains (e.addedFields field d a.name) a b)
      e.declarations (e.withField i field d h).declarations := by
  have htable : (e.withField i field d h).table = e.table := rfl
  have hused : (e.withField i field d h).usedInArray = e.usedInArray := rfl
  unfold declarations
  rw [htable, hused]
  refine List.rel_append (List.rel_append (List.rel_append (List.rel_append ?_ ?_) ?_) ?_) ?_
  · exact .cons (gains_objectType i d h) .nil
  · split
    · exact gains_resultTypes i d h
    · exact .nil
  · exact .cons (gains_inputType i d h) (.cons (gains_mutationInputType i d h hid) .nil)
  · split
    · exact .cons (gains_arrayMutationInputType i d h) .nil
    · exact .nil
  · exact .cons (gains_sortType i d h) (.cons (gains_filtersType i d h) .nil)

theorem gains_operation (op : RootOperation) (hop : op.isMutation = false) :
    Sdl.Operation.Gains (e.addedArguments field d (op.name e.name)) (e.operation op)
      ((e.withField i field d h).operation op) := by
  have hdates := grows_dateFormats i d h
  cases op with
  | all =>
    rw [addedArguments, if_pos rfl]
    have hfilters := grows_filterArguments i d h
    refine ⟨rfl, rfl, ?_⟩
    exact ((((hfilters.append_right _).append_right _).append_right _).append hdates).append_right _
  | get =>
    have hne : RootOperation.get.name e.name ≠ RootOperation.all.name e.name := fun he =>
      nomatch RootOperation.name_injective e.name he
    rw [addedArguments, if_neg hne, List.nil_append]
    exact ⟨rfl, rfl, (hdates.append_left _).append_right _⟩
  | _ => cases hop

theorem gains_queries :
    List.Forall₂ (fun a b => Sdl.Operation.Gains (e.addedArguments field d a.name) a b)
      (e.operations RootOperation.queries)
      ((e.withField i field d h).operations RootOperation.queries) := by
  have hoperations : (e.withField i field d h).operations RootOperation.queries =
      if e.table then (RootOperation.queries.filter fun op => !e.overrides op).map
        (e.withField i field d h).operation else [] := rfl
  rw [hoperations, operations]
  split
  · rw [List.forall₂_map_left_iff, List.forall₂_map_right_iff, List.forall₂_same]
    intro op hop
    exact gains_operation i d h op (RootOperation.mem_queries.mp (List.mem_filter.mp hop).1)
  · exact .nil

theorem mutations_withField (hid : field ≠ idField) :
    (e.withField i field d h).operations RootOperation.mutations =
      e.operations RootOperation.mutations := by
  have hoperation : ∀ op ∈ RootOperation.mutations.filter fun op => !e.overrides op,
      (e.withField i field d h).operation op = e.operation op := by
    intro op hop
    have hop := RootOperation.mem_mutations.mp (List.mem_filter.mp hop).1
    cases op with
    | all | get => cases hop
    | update =>
      rw [operation, arguments, idType_withField i d h hid]
      rfl
    | _ => rfl
  have hoperations : (e.withField i field d h).operations RootOperation.mutations =
      if e.table then (RootOperation.mutations.filter fun op => !e.overrides op).map
        (e.withField i field d h).operation else [] := rfl
  rw [hoperations, operations, List.map_congr_left hoperation]

theorem mem_names_withField {n : String} (hn : n ∈ (e.withField i field d h).fields.names) :
    n = field ∨ n ∈ e.fields.names := by
  have hperm := ((e.fields.grows_insertAt i d h).perm.map Prod.fst).mem_iff.mp hn
  rw [List.map_append, List.mem_append] at hperm
  rcases hperm with hn | hn
  · exact .inr hn
  · exact .inl (List.mem_singleton.mp hn)

theorem validate_withField (he : e.validate = .ok ()) (hname : isName field = true)
    (hr : field ∉ e.relationships.names) : (e.withField i field d h).validate = .ok () := by
  obtain ⟨hentity, hnames, hdisjoint⟩ := validate_eq_ok.mp he
  refine validate_eq_ok.mpr ⟨hentity, fun n hn => ?_, fun n hn hf => ?_⟩
  · simp only [declaredNames, List.mem_append] at hn hnames
    rcases hn with (hn | hn) | hn
    · rcases mem_names_withField i d h hn with rfl | hn
      · exact hname
      · exact hnames n (.inl (.inl hn))
    · exact hnames n (.inl (.inr hn))
    · exact hnames n (.inr hn)
  · rcases mem_names_withField i d h hf with rfl | hf
    · exact hr hn
    · exact hdisjoint n hn hf

end Added

section Unsupported

variable {e : Entity} {field : String} {d : Descriptor} (hd : d.isSupported = false)
include hd

theorem addedFields_of_unsupported (declaration : String) :
    e.addedFields field d declaration = [] := by
  cases d with
  | unsupported raw =>
    simp [addedFields, readType?, mutationArguments?, MutationBlock.ofDescriptor?,
      filterArguments?, FilterBlock.ofDescriptor?, Descriptor.isSupported]
  | _ => cases hd

theorem addedArguments_of_unsupported (query : String) : e.addedArguments field d query = [] := by
  cases d with
  | unsupported raw =>
    simp [addedArguments, filterArguments?, FilterBlock.ofDescriptor?, Descriptor.isDate]
  | _ => cases hd

end Unsupported

/-- Adding a field adds to the schema what is generated for the field. The schema has the same
declarations and the same operations as before. -/
theorem schema_withField {e : Entity} (he : e.validate = .ok ()) {field : String}
    (hname : isName field = true) (hid : field ≠ idField) (hf : field ∉ e.fields.names)
    (hr : field ∉ e.relationships.names) (i : Nat) (d : Descriptor) (source : FragmentSource) :
    ∃ s s', e.schema false source = .ok s ∧
      (e.withField i field d hf).schema false source = .ok s' ∧
      s' = { s with
        declarations := s'.declarations, queries := s'.queries, diagnostics := s'.diagnostics } ∧
      List.Forall₂ (fun a b => Sdl.Declaration.Gains (e.addedFields field d a.name) a b)
        s.declarations s'.declarations ∧
      List.Forall₂ (fun a b => Sdl.Operation.Gains (e.addedArguments field d a.name) a b)
        s.queries s'.queries ∧
      Grows (e.addedDiagnostics field d) s.diagnostics s'.diagnostics ∧
      (d.isSupported = false → s' = { s with diagnostics := s'.diagnostics }) := by
  have hdeclarations := gains_declarations i d hf hid
  have hqueries := gains_queries i d hf
  have hmutations := mutations_withField i d hf hid
  refine ⟨_, _, schema_eq he false source,
    schema_eq (validate_withField i d hf he hname hr) false source, ?_, hdeclarations, hqueries,
    grows_diagnostics i d hf, fun hd => ?_⟩
  · rw [permissiveSchema, hmutations]
    rfl
  · simp only [addedFields_of_unsupported hd] at hdeclarations
    simp only [addedArguments_of_unsupported hd] at hqueries
    have hsame := hdeclarations.imp fun _ _ => Sdl.Declaration.Gains.eq
    have hsame' := hqueries.imp fun _ _ => Sdl.Operation.Gains.eq
    rw [List.forall₂_eq_eq_eq] at hsame hsame'
    rw [permissiveSchema, hmutations, ← hsame, ← hsame']
    rfl

theorem book_withField_acquired :
    book.validate = .ok () ∧ isName "acquired" = true ∧ "acquired" ≠ idField ∧
      "acquired" ∉ book.relationships.names ∧ ∃ h : "acquired" ∉ book.fields.names, ∃ s s',
        book.schema false .none = .ok s ∧
          (book.withField 2 "acquired" .date h).schema false .none = .ok s' ∧
          List.Forall₂
            (fun a b => Sdl.Operation.Gains (book.addedArguments "acquired" .date a.name) a b)
            s.queries s'.queries ∧
          book.addedArguments "acquired" .date "getBook" = [⟨"acquired_format", "String"⟩] := by
  have hv : book.validate = .ok () := rfl
  have hname : isName "acquired" = true := by decide
  have hid : "acquired" ≠ idField := by decide
  have hf : "acquired" ∉ book.fields.names := by decide
  have hr : "acquired" ∉ book.relationships.names := by decide
  obtain ⟨s, s', hs, hs', -, -, hqueries, -⟩ := schema_withField hv hname hid hf hr 2 .date .none
  exact ⟨hv, hname, hid, hr, hf, s, s', hs, hs', hqueries, by decide⟩

end Entity

end DocumentSchema

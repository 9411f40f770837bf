import DocumentSchema.Proofs.Entity.Draft
import DocumentSchema.Proofs.Schema.Omission
import DocumentSchema.Proofs.Schema.OperationNames

/-!
# The identifier of root operations

Three root operations name a single document by its identifier. The update takes
the identifier with the type that it is read as, the other two take a string
whatever it is. So the three agree where the identifier is read as a string, or
where the other two are left to the caller.
-/
namespace DocumentSchema

/-- Entities that come from a draft or from a written entity. -/
inductive Entity.Made : Entity → Prop
  | built (name : String) (entries : List DraftEntry) : Made (build name entries)
  | read {j : Json} {e : Entity} (h : ofJson? j = some e) : Made e

def RootOperation.single : List RootOperation := [.update, .delete, .get]

def Descriptor.keyType (d : Descriptor) : String := (readType? .output d).getD "String"

namespace EntitySchema

def outputType? (s : EntitySchema) (field : String) : Option String :=
  (s.declaration? s.name).bind fun d => (d.field? field).map Sdl.Field.type

def operation? (s : EntitySchema) (op : RootOperation) : Option Sdl.Operation :=
  if op.isMutation then s.mutation? (op.name s.name) else s.query? (op.name s.name)

/-- The type that an operation takes for the identifier. -/
def keyType? (s : EntitySchema) (op : RootOperation) : Option String :=
  (s.operation? op).bind fun o => (o.argument? idField).map Sdl.Argument.type

end EntitySchema

namespace Entity

variable {e : Entity}

theorem Made.withIdentifier_eq (h : e.Made) : e.withIdentifier = e := by
  cases h with
  | built name entries => exact withIdentifier_withIdentifier _
  | read h =>
    rw [Sections.entity_ofJson?] at h
    obtain ⟨s, -, rfl⟩ := Option.map_eq_some_iff.mp h
    exact s.withIdentifier_entity

theorem Made.exists_identifier (h : e.Made) (ht : e.table = true) :
    ∃ d, (idField, d) ∈ e.fields.entries := by
  have hfields : e.fields = e.fields.insertFirst idField (.scalar .id) := by
    conv_lhs => rw [← h.withIdentifier_eq]
    rw [withIdentifier, if_pos ht]
  rw [hfields, NamedList.entries_insertFirst]
  split
  · next hmem =>
    obtain ⟨⟨_, d⟩, hd, rfl⟩ := List.mem_map.mp hmem
    exact ⟨d, hd⟩
  · exact ⟨_, List.mem_cons_self⟩

theorem plans_map_name_nodup (e : Entity) : (e.plans.map FieldPlan.name).Nodup := by
  rw [plans_map_name]
  exact e.withoutUnsupported.fields.distinct

theorem find?_plan {field : String} {d : Descriptor} (hd : (field, d) ∈ e.fields.entries) :
    (e.plans.find? fun p => p.name = field).map FieldPlan.output = readType? .output d := by
  rcases FieldPlan.of?_cases field d with ⟨raw, rfl, -⟩ | ⟨p, hp, hfor⟩
  · have hnone : e.plans.find? (fun p => p.name = field) = none := by
      refine List.find?_eq_none.mpr fun p hp hname => ?_
      obtain ⟨hmem, hfor⟩ := isFor_of_mem_plans hp
      obtain rfl := of_decide_eq_true hname
      have heq := List.inj_on_of_nodup_map e.fields.distinct hmem hd rfl
      have hdescriptor : p.descriptor = .unsupported raw := congrArg Prod.snd heq
      have houtput := hfor.output
      rw [hdescriptor] at houtput
      cases houtput
    rw [hnone]
    rfl
  · have hfind := find?_key_of_mem e.plans_map_name_nodup (mem_plans.mpr ⟨field, d, hd, hp⟩)
    rw [hfor.name_eq] at hfind
    rw [hfind, Option.map_some, hfor.output]

theorem idType_eq {d : Descriptor} (hd : (idField, d) ∈ e.fields.entries) :
    e.idType = d.keyType := by
  rw [idType, find?_plan hd, Descriptor.keyType]

theorem outputType?_permissiveSchema (e : Entity) (source : FragmentSource) (field : String) :
    (e.permissiveSchema source).outputType? field =
      (e.objectType.field? field).map Sdl.Field.type := by
  have hname : (e.permissiveSchema source).name = e.objectType.name := rfl
  rw [EntitySchema.outputType?, hname, declaration?_of_mem List.mem_cons_self source,
    Option.bind_some]

theorem outputType?_of_mem {source : FragmentSource} {field output : String} {d : Descriptor}
    (hd : (field, d) ∈ e.fields.entries) (hread : readType? .output d = some output) :
    (e.permissiveSchema source).outputType? field = some output := by
  have hplan := find?_plan hd
  rw [hread, Option.map_eq_some_iff] at hplan
  obtain ⟨p, hp, rfl⟩ := hplan
  have hfield : (e.plans.map fun p => Sdl.Field.plain p.name p.output).find?
      (fun f => f.name = field) = some (.plain p.name p.output) := by
    rw [List.find?_map, Option.map_eq_some_iff]
    exact ⟨p, hp, rfl⟩
  rw [outputType?_permissiveSchema, Sdl.Declaration.field?, objectType, List.append_assoc,
    List.find?_append, hfield]
  rfl

theorem find?_operation (ht : e.table = true) {ops : List RootOperation} (hops : ops.Nodup)
    {op : RootOperation} (hop : op ∈ ops) :
    (e.operations ops).find? (fun o => o.name = op.name e.name) =
      if e.overrides op then none else some (e.operation op) := by
  cases ho : e.overrides op with
  | true =>
    refine List.find?_eq_none.mpr fun o hmem hname => ?_
    have hname : op.name e.name ∈ (e.operations ops).map Sdl.Operation.name :=
      List.mem_map.mpr ⟨o, hmem, of_decide_eq_true hname⟩
    obtain ⟨op', -, ⟨-, ho'⟩, heq⟩ := mem_operations_map_name.mp hname
    obtain rfl : op' = op := RootOperation.name_injective e.name heq
    rw [ho] at ho'
    cases ho'
  | false =>
    have hmem : e.operation op ∈ e.operations ops := by
      rw [operations, if_pos ht]
      exact List.mem_map_of_mem (List.mem_filter.mpr ⟨hop, by rw [ho]; rfl⟩)
    exact find?_key_of_mem (e.operations_map_name_nodup hops) hmem

theorem operation?_permissiveSchema (ht : e.table = true) (source : FragmentSource)
    (op : RootOperation) :
    (e.permissiveSchema source).operation? op =
      if e.overrides op then none else some (e.operation op) := by
  rw [EntitySchema.operation?]
  cases hm : op.isMutation with
  | true => exact find?_operation ht (by decide) (RootOperation.mem_mutations.mpr hm)
  | false => exact find?_operation ht (by decide) (RootOperation.mem_queries.mpr hm)

theorem argument?_operation (e : Entity) {op : RootOperation} (hop : op ∈ RootOperation.single) :
    ((e.operation op).argument? idField).map Sdl.Argument.type =
      some (if op = .update then e.idType else "String") := by
  simp only [RootOperation.single, List.mem_cons, List.not_mem_nil, or_false] at hop
  rcases hop with rfl | rfl | rfl <;> rfl

theorem keyType?_permissiveSchema (ht : e.table = true) (source : FragmentSource)
    {op : RootOperation} (hop : op ∈ RootOperation.single) :
    (e.permissiveSchema source).keyType? op =
      if e.overrides op then none else some (if op = .update then e.idType else "String") := by
  rw [EntitySchema.keyType?, operation?_permissiveSchema ht]
  cases e.overrides op with
  | true => rfl
  | false => exact e.argument?_operation hop

/-- What the root operations for one document take as its identifier, which every stored entity has.
The update takes the type that the identifier has in the object type, or a string when the
identifier is unsupported; deletion and look-up take a string. So all of them take the identifier's
type exactly when this is a string, or when deletion and look-up are overridden. -/
theorem identifier_of_root_operations (he : e.Made) (ht : e.table = true) {strict : Bool}
    {source : FragmentSource} {s : EntitySchema} (hs : e.schema strict source = .ok s) :
    ∃ d, (idField, d) ∈ e.fields.entries ∧
      (∀ output, readType? .output d = some output → s.outputType? idField = some output) ∧
      (∀ op ∈ RootOperation.single, s.keyType? op =
        if e.overrides op then none else some (if op = .update then d.keyType else "String")) ∧
      ((∀ op ∈ RootOperation.single, e.overrides op = false → s.keyType? op = some d.keyType) ↔
        d.keyType = "String" ∨ e.overrides .delete = true ∧ e.overrides .get = true) := by
  obtain ⟨-, -, rfl⟩ := schema_eq_ok.mp hs
  obtain ⟨d, hd⟩ := he.exists_identifier ht
  have hkeys (op : RootOperation) (hop : op ∈ RootOperation.single) :
      (e.permissiveSchema source).keyType? op =
        if e.overrides op then none else some (if op = .update then d.keyType else "String") := by
    rw [keyType?_permissiveSchema ht source hop, idType_eq hd]
  refine ⟨d, hd, fun output hread => outputType?_of_mem hd hread, hkeys, ?_⟩
  constructor
  · intro hagree
    by_cases hstring : d.keyType = "String"
    · exact .inl hstring
    · have hoverridden (op : RootOperation) (hop : op ∈ RootOperation.single)
          (hne : op ≠ .update) : e.overrides op = true := by
        rw [← Bool.not_eq_false]
        intro ho
        have hkey := hagree op hop ho
        rw [hkeys op hop, ho, if_neg Bool.false_ne_true, if_neg hne, Option.some.injEq] at hkey
        exact hstring hkey.symm
      exact .inr ⟨hoverridden .delete (by decide) nofun, hoverridden .get (by decide) nofun⟩
  · intro hcases op hop ho
    rw [hkeys op hop, ho, if_neg Bool.false_ne_true]
    simp only [RootOperation.single, List.mem_cons, List.not_mem_nil, or_false] at hop
    rcases hop with rfl | rfl | rfl
    · rfl
    · exact congrArg some (hcases.resolve_right (by simp [ho])).symm
    · exact congrArg some (hcases.resolve_right (by simp [ho])).symm

def numberedBook : Entity :=
  build "Book" [.table true, .field idField (.scalar .int), .field "title" (.scalar .string)]

/-- Numbered books are updated by their number, but deleted and looked up by a string. -/
theorem numberedBook_identifier :
    numberedBook.Made ∧ numberedBook.table = true ∧
      ∃ s, numberedBook.schema true .none = .ok s ∧
        ∃ d, (idField, d) ∈ numberedBook.fields.entries ∧ ∀ op ∈ RootOperation.single,
          s.keyType? op = if numberedBook.overrides op then none
            else some (if op = .update then d.keyType else "String") := by
  have hmade : numberedBook.Made := .built _ _
  obtain ⟨s, hs⟩ : ∃ s, numberedBook.schema true .none = .ok s := ⟨_, rfl⟩
  obtain ⟨d, hd, -, hkeys, -⟩ := identifier_of_root_operations hmade rfl hs
  exact ⟨hmade, rfl, s, hs, d, hd, hkeys⟩

/-- The operations on numbered books do not agree on the identifier. -/
theorem numberedBook_disagrees :
    ∃ s, numberedBook.schema false .none = .ok s ∧ s.outputType? idField = some "Int" ∧
      s.keyType? .update = some "Int" ∧ s.keyType? .delete = some "String" ∧
        s.keyType? .get = some "String" :=
  ⟨_, rfl, rfl, rfl, rfl, rfl⟩

end Entity

end DocumentSchema

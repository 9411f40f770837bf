import DocumentSchema.Proofs.NamedList
import DocumentSchema.Proofs.Schema.Document

/-!
# What extends a schema by hand

Overrides, manual arguments and schema sources touch nothing but what they name.
Overrides take root operations away, manual arguments end the arguments of the
queries that stay, and sources add their fragments to a stored entity. A source
that is registered several times has the fragments of its last registration.
-/
namespace DocumentSchema

namespace Entity

/-- The entity with nothing that extends its schema by hand. -/
def withoutExtensions (e : Entity) : Entity := { e with manualArguments := [], extras := .none }

section Operations

variable (e : Entity)

theorem arguments_mutation {op : RootOperation} (h : op.isMutation = true) :
    e.arguments op = e.withoutExtensions.arguments op := by
  cases op with
  | all => cases h
  | get => cases h
  | _ => rfl

theorem arguments_query_eq_append {op : RootOperation} (h : op.isMutation = false) :
    e.arguments op = e.withoutExtensions.arguments op ++ e.manualQueryArguments := by
  have hplain : e.withoutExtensions.manualQueryArguments = [] := rfl
  cases op with
  | all => simp only [arguments, hplain, List.append_nil]; rfl
  | get => simp only [arguments, hplain, List.append_nil]; rfl
  | _ => cases h

theorem operation_mutation {op : RootOperation} (h : op.isMutation = true) :
    e.operation op = e.withoutExtensions.operation op := by
  rw [operation, arguments_mutation e h]
  rfl

theorem operation_query {op : RootOperation} (h : op.isMutation = false) :
    e.operation op =
      { e.withoutExtensions.operation op with
        arguments := (e.withoutExtensions.operation op).arguments ++ e.manualQueryArguments } := by
  rw [operation, arguments_query_eq_append e h]
  rfl

theorem operations_withoutExtensions (ops : List RootOperation) :
    e.withoutExtensions.operations ops =
      if e.table then ops.map e.withoutExtensions.operation else [] := by
  have hkeep : (ops.filter fun op => !e.withoutExtensions.overrides op) = ops :=
    List.filter_eq_self.mpr fun _ _ => rfl
  rw [operations, hkeep]
  rfl

/-- Overrides take operations away by name. If each operation extends its plain form in one way, the
plain ones that stay are extended in this way. -/
theorem operations_eq_filter {ops : List RootOperation} (extend : Sdl.Operation → Sdl.Operation)
    (h : ∀ op ∈ ops, e.operation op = extend (e.withoutExtensions.operation op)) :
    e.operations ops =
      ((e.withoutExtensions.operations ops).filter fun op =>
        !e.extras.overrides.contains op.name).map extend := by
  rw [operations_withoutExtensions, operations]
  split
  · rw [List.filter_map, List.map_map]
    exact List.map_congr_left fun op hop => h op (List.mem_filter.mp hop).1
  · rfl

theorem mutations_eq_filter :
    e.operations RootOperation.mutations =
      (e.withoutExtensions.operations RootOperation.mutations).filter fun op =>
        !e.extras.overrides.contains op.name := by
  have h := e.operations_eq_filter id fun op hop =>
    operation_mutation e (RootOperation.mem_mutations.mp hop)
  rwa [List.map_id] at h

theorem queries_eq_filter :
    e.operations RootOperation.queries =
      ((e.withoutExtensions.operations RootOperation.queries).filter fun op =>
        !e.extras.overrides.contains op.name).map fun op =>
          { op with arguments := op.arguments ++ e.manualQueryArguments } :=
  e.operations_eq_filter _ fun _ hop => operation_query e (RootOperation.mem_queries.mp hop)

end Operations

theorem queries_map_name (e : Entity) :
    (e.withoutExtensions.operations RootOperation.queries).map Sdl.Operation.name =
      if e.table then [RootOperation.all.name e.name, RootOperation.get.name e.name] else [] := by
  rw [operations_withoutExtensions]
  split <;> rfl

theorem permissiveSchema_eq_extend (e : Entity) (source : FragmentSource) :
    e.permissiveSchema source =
      { e.withoutExtensions.permissiveSchema source with
        queries := e.operations RootOperation.queries
        mutations := e.operations RootOperation.mutations
        queryFragments := e.fragments source.query
        mutationFragments := e.fragments source.mutation } := by
  rfl

theorem fragments_withoutExtensions (e : Entity) (fragment : String → Option String) :
    e.withoutExtensions.fragments fragment = [] := by
  unfold fragments
  split <;> rfl

end Entity

namespace FragmentRegistry

def ofRegistrations (registrations : List (String × Fragment)) : FragmentRegistry :=
  registrations.foldl (fun r (name, f) => r.register name f.query f.mutation) .empty

theorem get?_ofRegistrations (registrations : List (String × Fragment)) (name : String) :
    (ofRegistrations registrations).get? name = registrations.reverse.lookup name :=
  (NamedList.joins_ofList registrations).get?_eq name

end FragmentRegistry

namespace Entity

/-- A schema is that of the entity without extensions, where overridden operations are left out, the
queries end with the manual arguments and a stored entity has the fragments of its sources. The
fragments of a source are those that it was last registered with, also when these are none. -/
theorem extensions_local {e : Entity} (he : e.validate = .ok ()) (source : FragmentSource) :
    (∃ s, e.withoutExtensions.schema false source = .ok s ∧
      (s.queries.map Sdl.Operation.name =
        if e.table then [RootOperation.all.name e.name, RootOperation.get.name e.name] else []) ∧
      s.queryFragments = [] ∧ s.mutationFragments = [] ∧
      e.schema false source = .ok
        { s with
          queries := (s.queries.filter fun op => !e.extras.overrides.contains op.name).map fun op =>
            { op with
              arguments := op.arguments ++ e.manualArguments.map fun a => ⟨a.name, a.type⟩ }
          mutations := s.mutations.filter fun op => !e.extras.overrides.contains op.name
          queryFragments :=
            if e.table then e.extras.schemaSources.filterMap source.query else []
          mutationFragments :=
            if e.table then e.extras.schemaSources.filterMap source.mutation else [] }) ∧
      (∀ (before after : List (String × Fragment)) (name : String) (f : Fragment),
        name ∉ after.map Prod.fst →
          let registry := FragmentRegistry.ofRegistrations (before ++ (name, f) :: after)
          registry.toSource.query name = f.query ∧ registry.toSource.mutation name = f.mutation) ∧
      ∀ (registrations : List (String × Fragment)) (name : String),
        name ∉ registrations.map Prod.fst →
          let registry := FragmentRegistry.ofRegistrations registrations
          registry.toSource.query name = none ∧ registry.toSource.mutation name = none := by
  refine ⟨?_, ?_, ?_⟩
  · have hplain : e.withoutExtensions.validate = .ok () := he
    refine ⟨e.withoutExtensions.permissiveSchema source, schema_eq hplain false source,
      e.queries_map_name, fragments_withoutExtensions e _, fragments_withoutExtensions e _, ?_⟩
    rw [schema_eq he, permissiveSchema_eq_extend, mutations_eq_filter, queries_eq_filter]
    rfl
  · intro before after name f h
    simp only [FragmentRegistry.toSource, FragmentRegistry.get?_ofRegistrations,
      NamedList.lookup_reverse_append_cons f h, Option.bind_some, and_self]
  · intro registrations name h
    simp only [FragmentRegistry.toSource, FragmentRegistry.get?_ofRegistrations,
      NamedList.lookup_reverse_eq_none h, Option.bind_none, and_self]

def audited : Entity :=
  { book with
    manualArguments := [⟨"shelf", "Shelf"⟩, ⟨"floor", "Int"⟩]
    extras := ⟨.ofList ["updateBook", "getBook", "getAuthor"], ["./audit", "./stats", "./audit"]⟩ }

def auditRegistrations : List (String × Fragment) :=
  [("./stats", ⟨some "  stats: Int", none⟩), ("./audit", ⟨some "  audits: Int", none⟩),
    ("./stats", ⟨none, some "  resetStats: Boolean"⟩)]

theorem audited_extensions_local :
    audited.validate = .ok () ∧
      (∃ s, audited.schema false (FragmentRegistry.ofRegistrations auditRegistrations).toSource =
          .ok s ∧
        s.queries.map (fun op => (op.name, op.arguments.reverse.take 3)) =
          [("allBooks", [⟨"floor", "Int"⟩, ⟨"shelf", "Shelf"⟩, ⟨"published_format", "String"⟩])] ∧
        s.mutations.map Sdl.Operation.name =
          ["createBook", "updateBooks", "updateBooksBulk", "deleteBook"] ∧
        s.queryFragments = ["  audits: Int", "  audits: Int"] ∧
        s.mutationFragments = ["  resetStats: Boolean"]) ∧
      (FragmentRegistry.ofRegistrations auditRegistrations).toSource.query "./stats" = none ∧
      (FragmentRegistry.ofRegistrations auditRegistrations).toSource.mutation "./log" = none := by
  have hvalid : audited.validate = .ok () := by rfl
  obtain ⟨⟨s, hs, -, -, -, hextended⟩, hlast, hmissing⟩ := extensions_local hvalid
    (FragmentRegistry.ofRegistrations auditRegistrations).toSource
  obtain ⟨-, -, rfl⟩ := schema_eq_ok.mp hs
  refine ⟨hvalid, ⟨_, hextended, ?_, ?_, ?_, ?_⟩, ?_, ?_⟩
  · decide
  · decide
  · decide
  · decide
  · exact (hlast (auditRegistrations.take 2) [] "./stats" _ (by simp)).1
  · exact (hmissing auditRegistrations "./log" (by decide)).2

end Entity

end DocumentSchema

import DocumentSchema.Field.Filter
import DocumentSchema.Field.Relationship
import DocumentSchema.Fragments
import DocumentSchema.Settings

/-!
# The schema of an entity

An entity's schema lists its declarations and, when it is stored, its root
operations. Fields with unsupported descriptors are left out of everything and
reported; in strict mode the first of them is an error.
-/
namespace DocumentSchema

structure Diagnostic where
  entity : String
  field : String
  raw : String
  deriving DecidableEq, Repr

def Diagnostic.message (d : Diagnostic) : String :=
  d.entity ++ "." ++ d.field ++ ": unsupported type descriptor " ++ d.raw ++ ", field omitted"

inductive SchemaError
  | model (error : ModelError)
  | unsupportedDescriptor (entity field raw : String)
  | settings (error : SettingsError)
  deriving DecidableEq, Repr

def SchemaError.message : SchemaError → String
  | model error => error.message
  | unsupportedDescriptor entity field raw =>
    "Unsupported type descriptor for " ++ entity ++ "." ++ field ++ ": " ++ raw
  | settings error => error.message

def Diagnostic.toError (d : Diagnostic) : SchemaError :=
  .unsupportedDescriptor d.entity d.field d.raw

def Diagnostic.ofField (entity field : String) (d : Descriptor) : Diagnostic :=
  match d with
  | .unsupported raw => ⟨entity, field, raw⟩
  | d => ⟨entity, field, d.text⟩

/-- Everything that one supported field adds to the schema of its entity. -/
structure FieldPlan where
  name : String
  descriptor : Descriptor
  output : String
  input : String
  filters : List FilterArgument
  mutations : List MutationArgument

/-- The plan of a field, unless its descriptor is unsupported; identifiers never change. -/
def FieldPlan.of? (name : String) (d : Descriptor) : Option FieldPlan := do
  let output ← readType? .output d
  let input ← readType? .input d
  let filters ← filterArguments? name d
  let mutations ← mutationArguments? name d
  return ⟨name, d, output, input, filters, if name = idField then [] else mutations⟩

structure EntitySchema where
  name : String
  table : Bool
  declarations : List Sdl.Declaration
  queries : List Sdl.Operation
  mutations : List Sdl.Operation
  queryFragments : List String
  mutationFragments : List String
  diagnostics : List Diagnostic
  deriving DecidableEq, Repr

namespace Entity

def plans (e : Entity) : List FieldPlan :=
  e.fields.entries.filterMap fun f => FieldPlan.of? f.1 f.2

def diagnostics (e : Entity) : List Diagnostic :=
  e.fields.entries.filterMap fun f =>
    match f.2 with
    | .unsupported raw => some ⟨e.name, f.1, raw⟩
    | _ => none

def filterArguments (e : Entity) : List Sdl.Argument :=
  e.plans.flatMap fun p => p.filters.map FilterArgument.toArgument

def orArgument (e : Entity) : Sdl.Argument := ⟨"OR", listOf (TypeName.filters e.name)⟩

def objectType (e : Entity) : Sdl.Declaration :=
  ⟨.object, e.name,
    e.plans.map (fun p => .plain p.name p.output) ++
      e.resolvedFields.entries.map (fun f => .plain f.1 f.2) ++
      e.relationships.entries.map fun r => r.2.resolver r.1⟩

def resultTypes (e : Entity) : List Sdl.Declaration :=
  let one : Sdl.Field := .plain e.name e.name
  let many : Sdl.Field := .plain (e.name ++ "s") (listOf e.name)
  let success : Sdl.Field := .plain "success" "Boolean"
  [⟨.object, TypeName.queryResults e.name, [many, .plain "Meta" TypeName.queryResultsMetadata]⟩,
    ⟨.object, TypeName.singleQueryResult e.name, [one]⟩,
    ⟨.object, TypeName.mutationResult e.name, [success, one]⟩,
    ⟨.object, TypeName.mutationResultMulti e.name, [success, many]⟩,
    ⟨.object, TypeName.bulkMutationResult e.name, [success]⟩]

def inputType (e : Entity) : Sdl.Declaration :=
  ⟨.input, TypeName.input e.name,
    e.plans.map (fun p => .plain p.name p.input) ++
      e.relationships.entries.map fun r => r.2.inputField r.1⟩

def mutationInputType (e : Entity) : Sdl.Declaration :=
  ⟨.input, TypeName.mutationInput e.name,
    (e.plans.flatMap FieldPlan.mutations ++
      e.relationships.entries.map fun r => r.2.mutationArgument r.1).map
        fun a => a.toArgument.toField⟩

def arrayMutationInputType (e : Entity) : Sdl.Declaration :=
  ⟨.input, TypeName.arrayMutationInput e.name,
    [.plain "index" "Int", .plain "Updates" (TypeName.mutationInput e.name)]⟩

def sortType (e : Entity) : Sdl.Declaration :=
  ⟨.input, TypeName.sort e.name,
    (e.plans.filter fun p => !p.descriptor.isJson).map fun p => .plain p.name "Int"⟩

def filtersType (e : Entity) : Sdl.Declaration :=
  ⟨.input, TypeName.filters e.name,
    (e.filterArguments ++ [e.orArgument]).map Sdl.Argument.toField⟩

def declarations (e : Entity) : List Sdl.Declaration :=
  [e.objectType] ++ (if e.table then e.resultTypes else []) ++
    [e.inputType, e.mutationInputType] ++
    (if e.usedInArray then [e.arrayMutationInputType] else []) ++ [e.sortType, e.filtersType]

/-- The type of the identifier; a plain string when it is not a supported field. -/
def idType (e : Entity) : String :=
  ((e.plans.find? fun p => p.name = idField).map FieldPlan.output).getD "String"

def dateFormats (e : Entity) : List Sdl.Argument :=
  e.dateFields.map fun f => ⟨f ++ "_format", "String"⟩

def manualQueryArguments (e : Entity) : List Sdl.Argument :=
  e.manualArguments.map fun a => ⟨a.name, a.type⟩

def pagingArguments : List Sdl.Argument :=
  ["LIMIT", "SKIP", "PAGE", "PAGE_SIZE"].map fun name => ⟨name, "Int"⟩

def arguments (e : Entity) : RootOperation → List Sdl.Argument
  | .create => [⟨e.name, TypeName.input e.name⟩]
  | .update => [⟨idField, e.idType⟩, ⟨"Updates", TypeName.mutationInput e.name⟩]
  | .updateMany => [⟨"_ids", "[String]"⟩, ⟨"Updates", TypeName.mutationInput e.name⟩]
  | .updateBulk =>
    [⟨"Match", TypeName.filters e.name⟩, ⟨"Updates", TypeName.mutationInput e.name⟩]
  | .delete => [⟨idField, "String"⟩]
  | .all =>
    e.filterArguments ++ [e.orArgument] ++
      [⟨"SORT", TypeName.sort e.name⟩, ⟨"SORTS", listOf (TypeName.sort e.name)⟩] ++
      pagingArguments ++ e.dateFormats ++ e.manualQueryArguments
  | .get => [⟨idField, "String"⟩] ++ e.dateFormats ++ e.manualQueryArguments

def returns (e : Entity) : RootOperation → String
  | .create | .update => TypeName.mutationResult e.name
  | .updateMany => TypeName.mutationResultMulti e.name
  | .updateBulk => TypeName.bulkMutationResult e.name
  | .delete => "Boolean"
  | .all => TypeName.queryResults e.name
  | .get => TypeName.singleQueryResult e.name

def operation (e : Entity) (op : RootOperation) : Sdl.Operation :=
  ⟨op.name e.name, e.arguments op, e.returns op⟩

/-- Those of some root operations that the entity has: a stored one has all it does not override. -/
def operations (e : Entity) (ops : List RootOperation) : List Sdl.Operation :=
  if e.table then (ops.filter fun op => !e.overrides op).map e.operation else []

/-- The fragments of the entity's sources, in the order of the sources. -/
def fragments (e : Entity) (fragment : String → Option String) : List String :=
  if e.table then e.extras.schemaSources.filterMap fragment else []

/-- The schema with unsupported fields left out. -/
def permissiveSchema (e : Entity) (source : FragmentSource) : EntitySchema where
  name := e.name
  table := e.table
  declarations := e.declarations
  queries := e.operations RootOperation.queries
  mutations := e.operations RootOperation.mutations
  queryFragments := e.fragments source.query
  mutationFragments := e.fragments source.mutation
  diagnostics := e.diagnostics

/-- Walks over fields and reports those without a plan. In strict mode the first report is an error
and ends the walk. -/
def omissions (entity : String) (strict : Bool) :
    List (String × Descriptor) → Except SchemaError (List Diagnostic)
  | [] => .ok []
  | (field, d) :: rest =>
    match FieldPlan.of? field d with
    | some _ => omissions entity strict rest
    | none =>
      if strict then .error (Diagnostic.ofField entity field d).toError
      else (omissions entity strict rest).map (Diagnostic.ofField entity field d :: ·)

/-- The schema of an entity that is valid on its own. -/
def schema (e : Entity) (strict : Bool) (source : FragmentSource) :
    Except SchemaError EntitySchema :=
  match e.validate with
  | .error fault => .error (.model fault)
  | .ok () =>
    (omissions e.name strict e.fields.entries).map fun diagnostics =>
      { e.permissiveSchema source with diagnostics := diagnostics }

end Entity

structure RenderedEntity where
  name : String
  types : String
  mutation : Option String
  query : Option String
  deriving DecidableEq, Repr

def RenderedEntity.text (r : RenderedEntity) : String :=
  Sdl.joinBlocks ([r.types] ++ r.mutation.toList ++ r.query.toList)

namespace EntitySchema

def declaration? (s : EntitySchema) (name : String) : Option Sdl.Declaration :=
  s.declarations.find? fun d => d.name = name

def query? (s : EntitySchema) (name : String) : Option Sdl.Operation :=
  s.queries.find? fun op => op.name = name

def mutation? (s : EntitySchema) (name : String) : Option Sdl.Operation :=
  s.mutations.find? fun op => op.name = name

def rootBlock? (s : EntitySchema) (w : Sdl.Writer) (ops : List Sdl.Operation)
    (fragments : List String) : Option String :=
  let blocks := ops.map w.operation ++ fragments
  if s.table && !blocks.isEmpty then some (Sdl.joinBlocks blocks) else none

def render (s : EntitySchema) (w : Sdl.Writer) : RenderedEntity where
  name := s.name
  types := w.declarations s.declarations
  mutation := s.rootBlock? w s.mutations s.mutationFragments
  query := s.rootBlock? w s.queries s.queryFragments

end EntitySchema

end DocumentSchema

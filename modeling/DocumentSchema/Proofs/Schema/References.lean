import DocumentSchema.Proofs.Schema.TypeNames
import DocumentSchema.Proofs.Schema.Plans

/-!
# References of generated schemas

Fields, arguments and results refer to types. The texts of some of these types
are supplied with an entity: those of literal and resolved fields and of manual
arguments. All others are made by the generators, and each of them names a
scalar or a declaration of the kind that its place asks for.
-/
namespace DocumentSchema

namespace Sdl

/-- A type where it is used, with the kind of declaration that the place asks for. -/
abbrev TypeUse := Kind × String

def Field.typeUses (kind : Kind) (f : Field) : List TypeUse :=
  f.arguments.map (fun a => (.input, a.type)) ++ [(kind, f.type)]

@[simp] theorem Field.typeUses_plain (kind : Kind) (name type : String) :
    (Field.plain name type).typeUses kind = [(kind, type)] := rfl

def Declaration.typeUses (d : Declaration) : List TypeUse :=
  d.fields.flatMap fun f => f.typeUses d.kind

end Sdl

namespace EntitySchema

/-- Arguments take inputs; only the identifier of an update has the type it is read with. -/
def argumentKind (s : EntitySchema) (operation argument : String) : Sdl.Kind :=
  if operation = RootOperation.update.name s.name ∧ argument = idField then .object else .input

def operationUses (s : EntitySchema) (op : Sdl.Operation) : List Sdl.TypeUse :=
  op.arguments.map (fun a => (s.argumentKind op.name a.name, a.type)) ++ [(.object, op.returns)]

/-- Every use of a type in the schema of an entity. -/
def typeUses (s : EntitySchema) : List Sdl.TypeUse :=
  s.declarations.flatMap Sdl.Declaration.typeUses ++
    (s.queries ++ s.mutations).flatMap s.operationUses

end EntitySchema

namespace SchemaDocument

def typeUses (doc : SchemaDocument) : List Sdl.TypeUse := doc.entities.flatMap EntitySchema.typeUses

/-- The scalars of the language and, with the shared declarations, that of JSON values. -/
def scalars (doc : SchemaDocument) : List String :=
  ["String", "Int", "Float", "Boolean"] ++ if doc.emitPrelude then ["JSON"] else []

def declarations (doc : SchemaDocument) : List Sdl.Declaration :=
  (if doc.emitPrelude then Sdl.preludeDeclarations else []) ++
    doc.entities.flatMap EntitySchema.declarations

/-- A use resolves when the name in its brackets is a scalar or declared as the kind asked for. -/
def Resolves (doc : SchemaDocument) (u : Sdl.TypeUse) : Prop :=
  bareName u.2 ∈ doc.scalars ∨
    ∃ d ∈ doc.declarations, d.kind = u.1 ∧ d.name = bareName u.2

@[simp] theorem resolves_listOf {doc : SchemaDocument} {kind : Sdl.Kind} {type : String} :
    doc.Resolves (kind, listOf type) ↔ doc.Resolves (kind, type) := by
  simp [Resolves]

theorem resolves_of_mem {doc : SchemaDocument} {d : Sdl.Declaration}
    (hd : d ∈ doc.declarations) (hw : IsWord d.name) : doc.Resolves (d.kind, d.name) :=
  Or.inr ⟨d, hd, rfl, (bareName_of_isWord hw).symm⟩

end SchemaDocument

/-- A use of a type, with whether its text was supplied with the entity. -/
structure TypeReference where
  use : Sdl.TypeUse
  supplied : Bool
  deriving DecidableEq, Repr

def TypeReference.own (u : Sdl.TypeUse) : TypeReference := ⟨u, false⟩

def Descriptor.isLiteral : Descriptor → Bool
  | literal _ => true
  | _ => false

namespace Entity

def objectReferences (e : Entity) : List TypeReference :=
  e.plans.map (fun p => ⟨(.object, p.output), p.descriptor.isLiteral⟩) ++
    e.resolvedFields.entries.map (fun f => ⟨(.object, f.2), true⟩) ++
    e.relationships.entries.flatMap fun r => ((r.2.resolver r.1).typeUses .object).map .own

def inputReferences (e : Entity) : List TypeReference :=
  e.plans.map (fun p => ⟨(.input, p.input), p.descriptor.isLiteral⟩) ++
    e.relationships.entries.map fun r => .own (.input, r.2.type .input)

def mutationInputReferences (e : Entity) : List TypeReference :=
  e.plans.flatMap (fun p =>
      p.mutations.map fun a => ⟨(.input, a.type), p.descriptor.isLiteral⟩) ++
    e.relationships.entries.map fun r => .own (.input, r.2.type .input)

def ownDeclarations (e : Entity) : List Sdl.Declaration :=
  (if e.usedInArray then [e.arrayMutationInputType] else []) ++ [e.sortType, e.filtersType]

def declarationReferences (e : Entity) : List TypeReference :=
  e.objectReferences ++
    (if e.table then e.resultTypes.flatMap fun d => d.typeUses.map .own else []) ++
    e.inputReferences ++ e.mutationInputReferences ++
    e.ownDeclarations.flatMap fun d => d.typeUses.map .own

/-- Whether the type of the identifier was supplied, as that of a literal field. -/
def idIsLiteral (e : Entity) : Bool :=
  (e.plans.find? fun p => p.name = idField).any fun p => p.descriptor.isLiteral

/-- The arguments of an operation; those of queries end with the manual ones. -/
def argumentReferences (e : Entity) (op : RootOperation) : List TypeReference :=
  match op with
  | .update =>
    [⟨(.object, e.idType), e.idIsLiteral⟩, .own (.input, TypeName.mutationInput e.name)]
  | .all | .get =>
    (({ e with manualArguments := [] } : Entity).arguments op).map
        (fun a => .own (.input, a.type)) ++
      e.manualQueryArguments.map fun a => ⟨(.input, a.type), true⟩
  | op => (e.arguments op).map fun a => .own (.input, a.type)

def operationReferences (e : Entity) (ops : List RootOperation) : List TypeReference :=
  if e.table then
    (ops.filter fun op => !e.overrides op).flatMap fun op =>
      e.argumentReferences op ++ [.own (.object, e.returns op)]
  else []

def typeReferences (e : Entity) : List TypeReference :=
  e.declarationReferences ++
    e.operationReferences (RootOperation.queries ++ RootOperation.mutations)

/-- A text that was supplied with the entity as a type. -/
def SuppliesType (e : Entity) (type : String) : Prop :=
  (∃ f, (f, Descriptor.literal type) ∈ e.fields.entries) ∨
    (∃ f, (f, type) ∈ e.resolvedFields.entries) ∨ ∃ a ∈ e.manualArguments, a.type = type

end Entity

theorem RootOperation.name_eq_update {entity : String} {op : RootOperation} :
    op.name entity = update.name entity ↔ op = update := by
  constructor
  · intro h
    have hl := congrArg String.toList h
    cases op <;> simp [name] at hl ⊢
  · rintro rfl
    rfl

@[simp] theorem TypeReference.use_own (u : Sdl.TypeUse) : (own u).use = u := rfl

theorem TypeReference.uses_own (us : List Sdl.TypeUse) : (us.map own).map use = us := by
  simp [Function.comp_def]

namespace Entity

theorem uses_objectReferences (e : Entity) :
    e.objectReferences.map TypeReference.use = e.objectType.typeUses := by
  simp [objectReferences, objectType, Sdl.Declaration.typeUses, List.flatMap_map,
    List.map_flatMap, Function.comp_def, ← List.map_eq_flatMap]

theorem uses_inputReferences (e : Entity) :
    e.inputReferences.map TypeReference.use = e.inputType.typeUses := by
  simp [inputReferences, inputType, Sdl.Declaration.typeUses, List.flatMap_map,
    Relationship.inputField, Function.comp_def, ← List.map_eq_flatMap]

theorem uses_mutationInputReferences (e : Entity) :
    e.mutationInputReferences.map TypeReference.use = e.mutationInputType.typeUses := by
  simp [mutationInputReferences, mutationInputType, Sdl.Declaration.typeUses, List.flatMap_map,
    List.map_flatMap, List.flatMap_assoc, Sdl.Argument.toField, MutationArgument.toArgument,
    Relationship.mutationArgument, Function.comp_def, ← List.map_eq_flatMap]

theorem uses_declarationReferences (e : Entity) :
    e.declarationReferences.map TypeReference.use =
      e.declarations.flatMap Sdl.Declaration.typeUses := by
  have hown (ds : List Sdl.Declaration) :
      (ds.flatMap fun d => d.typeUses.map TypeReference.own).map TypeReference.use =
        ds.flatMap Sdl.Declaration.typeUses := by
    simp only [List.map_flatMap, TypeReference.uses_own]
  simp only [declarationReferences, declarations, ownDeclarations, List.map_append,
    List.flatMap_append, uses_objectReferences, uses_inputReferences,
    uses_mutationInputReferences, hown]
  cases e.table <;> simp [hown]

theorem arguments_query (e : Entity) {op : RootOperation} (hop : op ∈ RootOperation.queries) :
    e.arguments op =
      ({ e with manualArguments := [] } : Entity).arguments op ++ e.manualQueryArguments := by
  rw [RootOperation.mem_queries] at hop
  cases op <;> simp [RootOperation.isMutation] at hop <;>
    simp [arguments, manualQueryArguments] <;> rfl

theorem uses_argumentReferences (e : Entity) (source : FragmentSource) (op : RootOperation) :
    (e.argumentReferences op).map TypeReference.use =
      (e.arguments op).map fun a =>
        ((e.permissiveSchema source).argumentKind (op.name e.name) a.name, a.type) := by
  have hkind (a : String) : (e.permissiveSchema source).argumentKind (op.name e.name) a =
      if op = .update ∧ a = idField then .object else .input := by
    simp only [EntitySchema.argumentKind, permissiveSchema, RootOperation.name_eq_update]
  simp only [hkind]
  cases op with
  | update => simp [argumentReferences, arguments, idField]
  | all | get =>
    rw [e.arguments_query (by decide)]
    simp [argumentReferences, Function.comp_def]
  | _ => simp [argumentReferences, Function.comp_def]

theorem uses_operationReferences (e : Entity) (source : FragmentSource)
    (ops : List RootOperation) :
    (e.operationReferences ops).map TypeReference.use =
      (e.operations ops).flatMap (e.permissiveSchema source).operationUses := by
  unfold operationReferences operations
  split
  · simp only [List.map_flatMap, List.flatMap_map, List.map_append, List.map_cons, List.map_nil,
      e.uses_argumentReferences source, TypeReference.use_own]
    rfl
  · rfl

/-- The references of an entity are the uses of types in its schema, one by one. -/
theorem uses_typeReferences (e : Entity) (source : FragmentSource) :
    e.typeReferences.map TypeReference.use = (e.permissiveSchema source).typeUses := by
  have hops : e.operations (RootOperation.queries ++ RootOperation.mutations) =
      e.operations RootOperation.queries ++ e.operations RootOperation.mutations := by
    unfold operations
    split <;> simp
  rw [typeReferences, List.map_append, uses_declarationReferences,
    e.uses_operationReferences source, hops]
  rfl

end Entity

namespace Catalog

/-- Every reference of the document of a catalog. -/
def typeReferences (c : Catalog) : List TypeReference :=
  c.entities.flatMap fun e => (c.mark e).typeReferences

/-- The references of a catalog are the uses of types in its document, one by one. -/
theorem uses_of_document {c : Catalog} {settings : Settings} {source : FragmentSource}
    {doc : SchemaDocument} (h : c.document settings source = .ok doc) :
    c.typeReferences.map TypeReference.use = doc.typeUses := by
  rw [typeReferences, SchemaDocument.typeUses, entities_of_document h, List.map_flatMap,
    List.flatMap_map]
  simp only [Entity.uses_typeReferences _ source]

end Catalog

end DocumentSchema

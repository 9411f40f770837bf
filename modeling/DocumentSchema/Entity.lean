import DocumentSchema.NamedList
import DocumentSchema.NameSet
import DocumentSchema.Name
import DocumentSchema.RootOperation
import DocumentSchema.Descriptor

/-!
# Entities

An entity is one unit of a schema: fields with their descriptors, relationships
to other entities, fields that are computed, and the knobs that say which root
operations it gets.
-/
namespace DocumentSchema

/-- The field that identifies a stored document. -/
def idField : String := "_id"

structure Relationship where
  target : String
  isArray : Bool
  deriving DecidableEq, Repr

structure ManualArgument where
  name : String
  type : String
  deriving DecidableEq, Repr

/-- `overrides` names root operations that are left out; `schemaSources` names sources whose
fragments are added to the root types. -/
structure Extras where
  overrides : NameSet
  schemaSources : List String

def Extras.none : Extras := ⟨.empty, []⟩

/-- `table` marks an entity that is stored, `usedInArray` one that is embedded in arrays. -/
structure Entity where
  name : String
  fields : NamedList Descriptor
  relationships : NamedList Relationship
  resolvedFields : NamedList String
  manualArguments : List ManualArgument
  extras : Extras
  table : Bool
  usedInArray : Bool

inductive ModelError
  | invalidEntityName (entity : String)
  | invalidFieldName (entity field : String)
  | duplicateField (entity field : String)
  | duplicateEntity (entity : String)
  | unknownEntity (entity field target : String)
  deriving DecidableEq, Repr

def ModelError.message : ModelError → String
  | invalidEntityName entity => "Invalid GraphQL name: " ++ entity
  | invalidFieldName entity field => "Invalid GraphQL name: " ++ entity ++ "." ++ field
  | duplicateField entity field =>
    "Field " ++ entity ++ "." ++ field ++ " is declared both as a field and as a relationship"
  | duplicateEntity entity => "Entity " ++ entity ++ " is defined more than once"
  | unknownEntity entity field target =>
    "Field " ++ entity ++ "." ++ field ++ " refers to unknown entity " ++ target

namespace Entity

def empty (name : String) : Entity :=
  ⟨name, .empty, .empty, .empty, [], .none, false, false⟩

/-- A stored entity has an identifier: one is put in front if none is declared. -/
def withIdentifier (e : Entity) : Entity :=
  if e.table then { e with fields := e.fields.insertFirst idField (.scalar .id) } else e

theorem withIdentifier_withIdentifier (e : Entity) :
    e.withIdentifier.withIdentifier = e.withIdentifier := by
  by_cases h : e.table = true
  · simp [withIdentifier, h, NamedList.insertFirst_insertFirst]
  · simp [withIdentifier, h]

def declaredNames (e : Entity) : List String :=
  e.fields.names ++ e.relationships.names ++ e.resolvedFields.names

/-- The first fault of the entity on its own: its name, then the names it declares, then a
relationship that is also a field. -/
def validate (e : Entity) : Except ModelError Unit :=
  if !isName e.name then .error (.invalidEntityName e.name)
  else match e.declaredNames.find? fun n => !isName n with
    | some n => .error (.invalidFieldName e.name n)
    | none =>
      match e.relationships.names.find? e.fields.contains with
      | some n => .error (.duplicateField e.name n)
      | none => .ok ()

theorem validate_eq_ok {e : Entity} :
    e.validate = .ok () ↔ isName e.name = true ∧ (∀ n ∈ e.declaredNames, isName n = true) ∧
      ∀ n ∈ e.relationships.names, n ∉ e.fields.names := by
  unfold validate
  by_cases hn : isName e.name = true
  · cases hd : e.declaredNames.find? fun n => !isName n with
    | some n =>
      have hm := List.mem_of_find?_eq_some hd
      have hf := List.find?_some hd
      simp only [hn, Bool.not_true]
      grind
    | none =>
      have hall : ∀ n ∈ e.declaredNames, isName n = true := by simpa using hd
      cases hr : e.relationships.names.find? e.fields.contains with
      | some n =>
        have hm := List.mem_of_find?_eq_some hr
        have hf : n ∈ e.fields.names := by
          simpa [NamedList.contains] using List.find?_some hr
        simp only [hn, Bool.not_true]
        grind
      | none =>
        have hnone : ∀ n ∈ e.relationships.names, n ∉ e.fields.names := by
          simpa [NamedList.contains] using hr
        simpa [hn] using ⟨hall, hnone⟩
  · simp [hn]

def dateFields (e : Entity) : List String :=
  (e.fields.entries.filter fun f => f.2.isDate).map Prod.fst

/-- Fields with the entities they refer to: embedded ones first, then relationships. -/
def references (e : Entity) : List (String × String) :=
  e.fields.entries.filterMap (fun f => f.2.target?.map (f.1, ·)) ++
    e.relationships.entries.map fun r => (r.1, r.2.target)

def overrides (e : Entity) (op : RootOperation) : Bool :=
  e.extras.overrides.contains (op.name e.name)

end Entity

end DocumentSchema

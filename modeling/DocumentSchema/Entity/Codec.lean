import DocumentSchema.Entity
import DocumentSchema.Json.Record

/-!
# The written form of entities

An entity is written as a record. Every member but the name may be left out,
maps keep the order of their entries, and of entries with one key the first
place and the last value count. A stored entity gains its identifier when it is
read.
-/
namespace DocumentSchema

namespace Relationship

def ofJson? (j : Json) : Option Relationship := do
  match ← j.fields? ["target", "isArray"] with
  | [target, isArray] =>
    let target ← Json.required Json.string? target
    let isArray ← Json.optional false Json.bool? isArray
    return ⟨target, isArray⟩
  | _ => none

def toJson (r : Relationship) : Json :=
  .object [("target", .string r.target), ("isArray", .bool r.isArray)]

end Relationship

namespace ManualArgument

def ofJson? (j : Json) : Option ManualArgument := do
  match ← j.fields? ["name", "type"] with
  | [name, type] =>
    let name ← Json.required Json.string? name
    let type ← Json.required Json.string? type
    return ⟨name, type⟩
  | _ => none

def toJson (a : ManualArgument) : Json :=
  .object [("name", .string a.name), ("type", .string a.type)]

end ManualArgument

namespace Extras

def ofJson? (j : Json) : Option Extras := do
  match ← j.fields? ["overrides", "schemaSources"] with
  | [overrides, sources] =>
    let overrides ← Json.optional [] (Json.list? Json.string?) overrides
    let sources ← Json.optional [] (Json.list? Json.string?) sources
    return ⟨NameSet.ofList overrides, sources⟩
  | _ => Option.none

def toJson (x : Extras) : Json :=
  .object [("overrides", .array (x.overrides.names.map Json.string)),
    ("schemaSources", .array (x.schemaSources.map Json.string))]

end Extras

def NamedList.ofJson? {α : Type} (value : Json → Option α) (j : Json) : Option (NamedList α) :=
  (j.entries? value).map NamedList.ofList

def NamedList.toJson {α : Type} (value : α → Json) (l : NamedList α) : Json :=
  .object (l.entries.map fun (k, v) => (k, value v))

namespace Entity

def memberNames : List String :=
  ["name", "fields", "relationships", "resolvedFields", "manualQueryArgs", "extras", "table",
    "usedInArray"]

def ofJson? (j : Json) : Option Entity := do
  match ← j.fields? memberNames with
  | [name, fields, relationships, resolved, manual, extras, table, usedInArray] =>
    let name ← Json.required Json.string? name
    let fields ← Json.optional .empty (NamedList.ofJson? Descriptor.ofJson?) fields
    let relationships ←
      Json.optional .empty (NamedList.ofJson? Relationship.ofJson?) relationships
    let resolved ← Json.optional .empty (NamedList.ofJson? Json.string?) resolved
    let manual ← Json.optional [] (Json.list? ManualArgument.ofJson?) manual
    let extras ← Json.optional .none Extras.ofJson? extras
    let table ← Json.optional false Json.bool? table
    let usedInArray ← Json.optional false Json.bool? usedInArray
    let e : Entity := ⟨name, fields, relationships, resolved, manual, extras, table, usedInArray⟩
    return e.withIdentifier
  | _ => none

def toJson (e : Entity) : Json :=
  .object [("name", .string e.name),
    ("fields", e.fields.toJson Descriptor.toJson),
    ("relationships", e.relationships.toJson Relationship.toJson),
    ("resolvedFields", e.resolvedFields.toJson Json.string),
    ("manualQueryArgs", .array (e.manualArguments.map ManualArgument.toJson)),
    ("extras", e.extras.toJson),
    ("table", .bool e.table),
    ("usedInArray", .bool e.usedInArray)]

end Entity

end DocumentSchema

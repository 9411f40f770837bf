import DocumentSchema.Entity.Codec
import DocumentSchema.Entity.Draft
import DocumentSchema.Proofs.Descriptor
import DocumentSchema.Proofs.NamedList
import DocumentSchema.Proofs.Traversal

/-!
# The sections of an entity

An entity comes from sections that list what is said about it, in order and with
repeats. A draft and a written entity each have sections, and the entity depends
on nothing else: so a draft and the record of its sections make the same entity.
-/
namespace DocumentSchema

namespace Json

variable {α : Type} {read : Json → Option α} {write : α → Json}

theorem list?_map {l : List α} (h : ∀ a ∈ l, read (write a) = some a) :
    list? read (.array (l.map write)) = some l := by
  rw [list?, List.mapM_map]
  exact Traversal.mapM_eq_some_self h

theorem entries?_map {l : List (String × α)} (h : ∀ p ∈ l, read (write p.2) = some p.2) :
    entries? read (.object (l.map fun p => (p.1, write p.2))) = some l := by
  rw [entries?, List.mapM_map]
  refine Traversal.mapM_eq_some_self fun p hp => ?_
  simp [h p hp]

theorem length_fields? {names : List String} {j : Json} {fields : List (Option Json)}
    (h : j.fields? names = some fields) : fields.length = names.length := by
  cases j with
  | array items =>
    simp only [fields?] at h
    split at h
    · rename_i hle
      cases h
      rw [List.length_append, List.length_map, List.length_replicate]
      omega
    · cases h
  | object members => exact Traversal.length_of_mapM_eq_some h
  | _ => cases h

theorem source_of_mem_entries? {j : Json} {pairs : List (String × α)}
    (h : entries? read j = some pairs) {p : String × α} (hp : p ∈ pairs) :
    ∃ k, read k = some p.2 := by
  cases j with
  | object members =>
    obtain ⟨⟨key, k⟩, -, hk⟩ := Traversal.source_of_mem_of_mapM_eq_some h hp
    obtain ⟨a, ha, rfl⟩ := Option.map_eq_some_iff.mp hk
    exact ⟨k, ha⟩
  | _ => cases h

end Json

theorem Relationship.ofJson?_toJson (r : Relationship) : ofJson? r.toJson = some r := by
  rfl

theorem ManualArgument.ofJson?_toJson (a : ManualArgument) : ofJson? a.toJson = some a := by
  rfl

/-- What is said about an entity, section by section. -/
structure Sections where
  name : String
  fields : List (String × Descriptor)
  relationships : List (String × Relationship)
  resolvedFields : List (String × String)
  manualArguments : List ManualArgument
  overrides : List String
  schemaSources : List String
  table : Bool
  usedInArray : Bool

namespace Sections

def joined (s : Sections) : Entity where
  name := s.name
  fields := .ofList s.fields
  relationships := .ofList s.relationships
  resolvedFields := .ofList s.resolvedFields
  manualArguments := s.manualArguments
  extras := ⟨.ofList s.overrides, s.schemaSources⟩
  table := s.table
  usedInArray := s.usedInArray

def entity (s : Sections) : Entity := s.joined.withIdentifier

/-- The record of the sections, each with all its entries. -/
def toJson (s : Sections) : Json :=
  .object [("name", .string s.name),
    ("fields", .object (s.fields.map fun f => (f.1, f.2.toJson))),
    ("relationships", .object (s.relationships.map fun r => (r.1, r.2.toJson))),
    ("resolvedFields", .object (s.resolvedFields.map fun f => (f.1, .string f.2))),
    ("manualQueryArgs", .array (s.manualArguments.map ManualArgument.toJson)),
    ("extras", .object [("overrides", .array (s.overrides.map Json.string)),
      ("schemaSources", .array (s.schemaSources.map Json.string))]),
    ("table", .bool s.table),
    ("usedInArray", .bool s.usedInArray)]

def extras? (j : Json) : Option (List String × List String) := do
  match ← j.fields? ["overrides", "schemaSources"] with
  | [overrides, sources] =>
    let overrides ← Json.optional [] (Json.list? Json.string?) overrides
    let sources ← Json.optional [] (Json.list? Json.string?) sources
    return (overrides, sources)
  | _ => none

def ofJson? (j : Json) : Option Sections := do
  match ← j.fields? Entity.memberNames with
  | [name, fields, relationships, resolved, manual, extras, table, usedInArray] =>
    let name ← Json.required Json.string? name
    let fields ← Json.optional [] (Json.entries? Descriptor.ofJson?) fields
    let relationships ← Json.optional [] (Json.entries? Relationship.ofJson?) relationships
    let resolved ← Json.optional [] (Json.entries? Json.string?) resolved
    let manual ← Json.optional [] (Json.list? ManualArgument.ofJson?) manual
    let (overrides, sources) ← Json.optional ([], []) extras? extras
    let table ← Json.optional false Json.bool? table
    let usedInArray ← Json.optional false Json.bool? usedInArray
    return ⟨name, fields, relationships, resolved, manual, overrides, sources, table, usedInArray⟩
  | _ => none

/-- No field has a descriptor that is written like another one. -/
def Unambiguous (s : Sections) : Prop := ∀ f ∈ s.fields, f.2.Unambiguous

theorem extras?_toJson (overrides sources : List String) :
    extras? (.object [("overrides", .array (overrides.map Json.string)),
      ("schemaSources", .array (sources.map Json.string))]) = some (overrides, sources) := by
  have hlist (l : List String) : Json.list? Json.string? (.array (l.map Json.string)) = some l :=
    Json.list?_map fun _ _ => rfl
  change (do
    let overrides ← Json.list? Json.string? (.array (overrides.map Json.string))
    let sources ← Json.list? Json.string? (.array (sources.map Json.string))
    return (overrides, sources)) = _
  simp [hlist]

theorem ofJson?_toJson {s : Sections} (h : s.Unambiguous) : ofJson? s.toJson = some s := by
  have hfields : Json.entries? Descriptor.ofJson?
      (.object (s.fields.map fun f => (f.1, f.2.toJson))) = some s.fields :=
    Json.entries?_map fun f hf => Descriptor.ofJson?_toJson (h f hf)
  have hrelationships : Json.entries? Relationship.ofJson?
      (.object (s.relationships.map fun r => (r.1, r.2.toJson))) = some s.relationships :=
    Json.entries?_map fun r _ => r.2.ofJson?_toJson
  have hresolved : Json.entries? Json.string?
      (.object (s.resolvedFields.map fun f => (f.1, .string f.2))) = some s.resolvedFields :=
    Json.entries?_map fun _ _ => rfl
  have hmanual : Json.list? ManualArgument.ofJson?
      (.array (s.manualArguments.map ManualArgument.toJson)) = some s.manualArguments :=
    Json.list?_map fun a _ => a.ofJson?_toJson
  have hmembers : s.toJson.fields? Entity.memberNames = some
      [some (.string s.name),
        some (.object (s.fields.map fun f => (f.1, f.2.toJson))),
        some (.object (s.relationships.map fun r => (r.1, r.2.toJson))),
        some (.object (s.resolvedFields.map fun f => (f.1, .string f.2))),
        some (.array (s.manualArguments.map ManualArgument.toJson)),
        some (.object [("overrides", .array (s.overrides.map Json.string)),
          ("schemaSources", .array (s.schemaSources.map Json.string))]),
        some (.bool s.table), some (.bool s.usedInArray)] := by
    rfl
  unfold ofJson?
  simp only [hmembers, Json.required, Json.optional, Option.bind_eq_bind, Option.bind_some,
    Json.string?, hfields, hrelationships, hresolved, hmanual, extras?_toJson, Json.bool?]
  rfl

theorem optional_map {α β : Type} (f : α → β) (default : α) (read : Json → Option α)
    (field : Option Json) :
    Json.optional (f default) (fun j => (read j).map f) field =
      (Json.optional default read field).map f := by
  cases field <;> rfl

theorem extras_ofJson? (j : Json) :
    Extras.ofJson? j = (extras? j).map fun x => ⟨.ofList x.1, x.2⟩ := by
  unfold Extras.ofJson? extras?
  cases hmembers : j.fields? ["overrides", "schemaSources"] with
  | none => rfl
  | some members =>
    match members, Json.length_fields? hmembers with
    | [overrides, sources], _ =>
      simp only [Option.bind_eq_bind, Option.bind_some, Option.map_bind, Function.comp_def]
      rfl

theorem entity_ofJson? (j : Json) : Entity.ofJson? j = (ofJson? j).map entity := by
  have hnames {α : Type} (read : Json → Option α) (field : Option Json) :
      Json.optional .empty (NamedList.ofJson? read) field =
        (Json.optional [] (Json.entries? read) field).map NamedList.ofList :=
    optional_map NamedList.ofList [] (Json.entries? read) field
  have hextras (field : Option Json) :
      Json.optional .none Extras.ofJson? field =
        (Json.optional ([], []) extras? field).map fun x => ⟨.ofList x.1, x.2⟩ := by
    rw [funext extras_ofJson?]
    exact optional_map (fun x => Extras.mk (.ofList x.1) x.2) ([], []) extras? field
  unfold Entity.ofJson? ofJson?
  cases hmembers : j.fields? Entity.memberNames with
  | none => rfl
  | some members =>
    match members, Json.length_fields? hmembers with
    | [name, fields, relationships, resolved, manual, extras, table, usedInArray], _ =>
      simp only [Option.bind_eq_bind, Option.bind_some, hnames, hextras, Option.map_bind,
        Option.bind_map, Function.comp_def]
      rfl

theorem unambiguous_of_ofJson? {j : Json} {s : Sections} (h : ofJson? j = some s) :
    s.Unambiguous := by
  unfold ofJson? at h
  obtain ⟨members, -, h⟩ := Option.bind_eq_some_iff.mp h
  split at h
  · rename_i fields _ _ _ _ _ _
    simp only [Option.bind_eq_bind, Option.bind_eq_some_iff] at h
    obtain ⟨_, _, pairs, hpairs, _, _, _, _, _, _, _, _, _, _, _, _, hs⟩ := h
    cases hs
    intro f hf
    cases fields with
    | none =>
      cases hpairs
      cases hf
    | some k =>
      obtain ⟨k, hk⟩ := Json.source_of_mem_entries? hpairs hf
      exact Descriptor.unambiguous_of_ofJson? hk
  · cases h

end Sections

namespace Entity

def sections (e : Entity) : Sections where
  name := e.name
  fields := e.fields.entries
  relationships := e.relationships.entries
  resolvedFields := e.resolvedFields.entries
  manualArguments := e.manualArguments
  overrides := e.extras.overrides.names
  schemaSources := e.extras.schemaSources
  table := e.table
  usedInArray := e.usedInArray

theorem toJson_sections (e : Entity) : e.sections.toJson = e.toJson := by
  rfl

theorem joined_sections (e : Entity) : e.sections.joined = e := by
  simp only [Sections.joined, sections, NamedList.ofList_entries, NameSet.ofList_names]

end Entity

namespace Sections

theorem withIdentifier_entity (s : Sections) : s.entity.withIdentifier = s.entity :=
  s.joined.withIdentifier_withIdentifier

theorem unambiguous_sections_entity {s : Sections} (h : s.Unambiguous) :
    s.entity.sections.Unambiguous := by
  have hjoined (f : String × Descriptor) (hf : f ∈ s.joined.fields.entries) :
      f.2.Unambiguous := h f (NamedList.mem_of_mem_ofList hf)
  intro f hf
  change f ∈ s.joined.withIdentifier.fields.entries at hf
  unfold Entity.withIdentifier at hf
  split at hf
  · rcases NamedList.mem_insertFirst hf with rfl | hf
    · exact Descriptor.unambiguous_of_isSupported rfl
    · exact hjoined f hf
  · exact hjoined f hf

/-- Writing the entity of some sections loses nothing. -/
theorem ofJson?_toJson_entity {s : Sections} (h : s.Unambiguous) :
    Entity.ofJson? s.entity.toJson = some s.entity := by
  calc Entity.ofJson? s.entity.toJson
      = (ofJson? s.entity.sections.toJson).map entity := by
        rw [Entity.toJson_sections, entity_ofJson?]
    _ = some s.entity.sections.entity := by
        rw [ofJson?_toJson (unambiguous_sections_entity h), Option.map_some]
    _ = some s.entity := by
        rw [entity, Entity.joined_sections, withIdentifier_entity]

end Sections

end DocumentSchema

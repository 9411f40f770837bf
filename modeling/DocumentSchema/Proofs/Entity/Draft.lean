import DocumentSchema.Proofs.Entity.Sections

/-!
# Drafts and records

Building an entity step by step and reading it from a record come to the same:
both collect sections, join the entries that share a name and put an identifier
in front of the fields of a stored entity that declares none. An entity that was
made in either way can be written and read again without loss.
-/
namespace DocumentSchema

namespace DraftEntry

def field? : DraftEntry → Option (String × Descriptor)
  | field name d => some (name, d)
  | _ => none

def relationship? : DraftEntry → Option (String × Relationship)
  | relationship name r => some (name, r)
  | _ => none

def resolvedField? : DraftEntry → Option (String × String)
  | resolvedField name type => some (name, type)
  | _ => none

def manualArgument? : DraftEntry → Option ManualArgument
  | manualArgument name type => some ⟨name, type⟩
  | _ => none

def overrideOperation? : DraftEntry → Option String
  | overrideOperation name => some name
  | _ => none

def schemaSource? : DraftEntry → Option String
  | schemaSource name => some name
  | _ => none

def table? : DraftEntry → Option Bool
  | table value => some value
  | _ => none

def usedInArray? : DraftEntry → Option Bool
  | usedInArray value => some value
  | _ => none

end DraftEntry

namespace Sections

/-- Each section has its entries in the order in which they were added, repeats included. A flag
has the value that was set last. -/
def ofEntries (name : String) (entries : List DraftEntry) : Sections where
  name := name
  fields := entries.filterMap DraftEntry.field?
  relationships := entries.filterMap DraftEntry.relationship?
  resolvedFields := entries.filterMap DraftEntry.resolvedField?
  manualArguments := entries.filterMap DraftEntry.manualArgument?
  overrides := entries.filterMap DraftEntry.overrideOperation?
  schemaSources := entries.filterMap DraftEntry.schemaSource?
  table := (entries.filterMap DraftEntry.table?).getLast?.getD false
  usedInArray := (entries.filterMap DraftEntry.usedInArray?).getLast?.getD false

theorem joined_ofEntries_concat (name : String) (entries : List DraftEntry) (x : DraftEntry) :
    (ofEntries name (entries ++ [x])).joined = (ofEntries name entries).joined.add x := by
  cases x <;>
    simp only [ofEntries, joined, Entity.add, DraftEntry.field?, DraftEntry.relationship?,
      DraftEntry.resolvedField?, DraftEntry.manualArgument?, DraftEntry.overrideOperation?,
      DraftEntry.schemaSource?, DraftEntry.table?, DraftEntry.usedInArray?,
      List.filterMap_append, List.filterMap_cons, List.filterMap_nil, List.append_nil,
      List.getLast?_concat, Option.getD_some, NamedList.ofList_concat, NameSet.ofList_concat]

theorem foldl_add_eq_joined (name : String) (entries : List DraftEntry) :
    entries.foldl Entity.add (.empty name) = (ofEntries name entries).joined := by
  induction entries using List.reverseRecOn with
  | nil => rfl
  | append_singleton entries x ih =>
    rw [List.foldl_append, ih, joined_ofEntries_concat]
    rfl

theorem build_eq_entity (name : String) (entries : List DraftEntry) :
    Entity.build name entries = (ofEntries name entries).entity := by
  rw [Entity.build, foldl_add_eq_joined, entity]

theorem unambiguous_ofEntries {name : String} {entries : List DraftEntry}
    (h : ∀ f d, .field f d ∈ entries → d.Unambiguous) : (ofEntries name entries).Unambiguous := by
  intro f hf
  obtain ⟨x, hx, hfield⟩ := List.mem_filterMap.mp hf
  cases x with
  | field n d =>
    cases hfield
    exact h n d hx
  | _ => cases hfield

/-- How an entity follows from its sections. An identifier stands in front of the fields when the
entity is stored and no identifier is declared. -/
structure Describe (s : Sections) (e : Entity) : Prop where
  name_eq : e.name = s.name
  fields_eq : ∃ declared : NamedList Descriptor, declared.Joins s.fields ∧
    e.fields.entries =
      if s.table = true ∧ idField ∉ declared.names then
        (idField, .scalar .id) :: declared.entries
      else declared.entries
  relationships_joins : e.relationships.Joins s.relationships
  resolvedFields_joins : e.resolvedFields.Joins s.resolvedFields
  manualArguments_eq : e.manualArguments = s.manualArguments
  mem_overrides : ∀ name, name ∈ e.extras.overrides.names ↔ name ∈ s.overrides
  schemaSources_eq : e.extras.schemaSources = s.schemaSources
  table_eq : e.table = s.table
  usedInArray_eq : e.usedInArray = s.usedInArray

theorem entity_eq (s : Sections) : s.entity = { s.joined with fields := s.entity.fields } := by
  unfold entity Entity.withIdentifier
  split <;> rfl

theorem entries_fields_entity (s : Sections) :
    s.entity.fields.entries =
      if s.table = true ∧ idField ∉ s.joined.fields.names then
        (idField, .scalar .id) :: s.joined.fields.entries
      else s.joined.fields.entries := by
  unfold entity Entity.withIdentifier
  by_cases ht : s.table = true
  · rw [if_pos (show s.joined.table = true from ht), NamedList.entries_insertFirst]
    by_cases hm : idField ∈ s.joined.fields.names <;> simp [ht, hm]
  · rw [if_neg (show ¬ s.joined.table = true from ht), if_neg fun h => ht h.1]

theorem describe_entity (s : Sections) : s.Describe s.entity := by
  have heq := s.entity_eq
  have hrelationships : s.entity.relationships = .ofList s.relationships :=
    congrArg Entity.relationships heq
  have hresolved : s.entity.resolvedFields = .ofList s.resolvedFields :=
    congrArg Entity.resolvedFields heq
  have hextras : s.entity.extras = ⟨.ofList s.overrides, s.schemaSources⟩ :=
    congrArg Entity.extras heq
  exact {
    name_eq := congrArg Entity.name heq
    fields_eq := ⟨_, NamedList.joins_ofList s.fields, s.entries_fields_entity⟩
    relationships_joins := hrelationships ▸ NamedList.joins_ofList s.relationships
    resolvedFields_joins := hresolved ▸ NamedList.joins_ofList s.resolvedFields
    manualArguments_eq := congrArg Entity.manualArguments heq
    mem_overrides := fun _ => by rw [hextras, NameSet.mem_ofList]
    schemaSources_eq := congrArg Extras.schemaSources hextras
    table_eq := congrArg Entity.table heq
    usedInArray_eq := congrArg Entity.usedInArray heq }

end Sections

namespace Entity

/-- The record of a draft's sections is read as the entity that the draft builds. An entity that is
built or read follows from its sections, and nothing is left to do for its identifier. -/
theorem build_eq_read :
    (∀ name entries, (∀ f d, .field f d ∈ entries → d.Unambiguous) →
      ofJson? (Sections.ofEntries name entries).toJson = some (build name entries)) ∧
    (∀ name entries, (Sections.ofEntries name entries).Describe (build name entries) ∧
      (build name entries).fields.names.count idField ≤ 1 ∧
      (build name entries).withIdentifier = build name entries) ∧
    ∀ j e, ofJson? j = some e →
      ∃ s, Sections.ofJson? j = some s ∧ s.Describe e ∧ e.withIdentifier = e := by
  refine ⟨fun name entries h => ?_, fun name entries => ⟨?_, ?_, ?_⟩, fun j e h => ?_⟩
  · rw [Sections.entity_ofJson?, Sections.ofJson?_toJson (Sections.unambiguous_ofEntries h),
      Option.map_some, Sections.build_eq_entity]
  · rw [Sections.build_eq_entity]
    exact Sections.describe_entity _
  · exact List.nodup_iff_count_le_one.mp (build name entries).fields.distinct idField
  · exact withIdentifier_withIdentifier _
  · rw [Sections.entity_ofJson?, Option.map_eq_some_iff] at h
    obtain ⟨s, hs, rfl⟩ := h
    exact ⟨s, hs, s.describe_entity, s.withIdentifier_entity⟩

def bookDraft : List DraftEntry :=
  [.table false, .field "title" (.scalar .string), .overrideOperation "deleteBook",
    .field "pages" (.scalar .int), .relationship "subjects" ⟨"Subject", true⟩,
    .field "title" (.unsupported "Decimal"), .schemaSource "./audit", .table true,
    .schemaSource "./audit"]

theorem unambiguous_bookDraft (f : String) (d : Descriptor) (h : .field f d ∈ bookDraft) :
    d.Unambiguous := by
  simp only [bookDraft, List.mem_cons, DraftEntry.field.injEq, reduceCtorEq, List.not_mem_nil,
    or_false, false_or] at h
  rcases h with ⟨-, rfl⟩ | ⟨-, rfl⟩ | ⟨-, rfl⟩ <;> decide

theorem bookDraft_build_eq_read :
    (∀ f d, .field f d ∈ bookDraft → d.Unambiguous) ∧
      ofJson? (Sections.ofEntries "Book" bookDraft).toJson = some (build "Book" bookDraft) ∧
      (build "Book" bookDraft).fields.entries =
        [("_id", .scalar .id), ("title", .unsupported "Decimal"), ("pages", .scalar .int)] ∧
      ∃ s, Sections.ofJson? (Sections.ofEntries "Book" bookDraft).toJson = some s ∧
        s.Describe (build "Book" bookDraft) := by
  obtain ⟨hbuild, -, hread⟩ := build_eq_read
  have hbook := hbuild "Book" bookDraft unambiguous_bookDraft
  obtain ⟨s, hs, hdescribe, -⟩ := hread _ _ hbook
  exact ⟨unambiguous_bookDraft, hbook, rfl, s, hs, hdescribe⟩

/-- Writing an entity that was read, or built from descriptors that are not mistaken for others,
and reading it again gives the entity back. -/
theorem written_reads_back :
    (∀ j e, ofJson? j = some e → ofJson? e.toJson = some e) ∧
    ∀ name entries, (∀ f d, .field f d ∈ entries → d.Unambiguous) →
      ofJson? (build name entries).toJson = some (build name entries) := by
  constructor
  · intro j e h
    rw [Sections.entity_ofJson?, Option.map_eq_some_iff] at h
    obtain ⟨s, hs, rfl⟩ := h
    exact Sections.ofJson?_toJson_entity (Sections.unambiguous_of_ofJson? hs)
  · intro name entries h
    rw [Sections.build_eq_entity]
    exact Sections.ofJson?_toJson_entity (Sections.unambiguous_ofEntries h)

def shelfRecord : Json :=
  .object [("name", .string "Shelf"), ("comment", .null), ("table", .bool true),
    ("fields", .object [("label", .string "String"), ("width", .number (.int 42)),
      ("label", .object [("arrayOf", .string "Book")])]),
    ("extras", .array [.array [.string "getShelf", .string "allShelfs", .string "getShelf"]])]

theorem shelf_written_reads_back :
    (∃ e, ofJson? shelfRecord = some e ∧
      e.fields.entries =
        [("_id", .scalar .id), ("label", .objectArray "Book"), ("width", .unsupported "42")] ∧
      e.extras.overrides.names = ["allShelfs", "getShelf"] ∧
      ofJson? e.toJson = some e) ∧
    (∀ f d, .field f d ∈ bookDraft → d.Unambiguous) ∧
      ofJson? (build "Book" bookDraft).toJson = some (build "Book" bookDraft) := by
  obtain ⟨hread, hbuild⟩ := written_reads_back
  exact ⟨⟨_, rfl, rfl, rfl, hread shelfRecord _ rfl⟩, unambiguous_bookDraft,
    hbuild "Book" bookDraft unambiguous_bookDraft⟩

end Entity

end DocumentSchema

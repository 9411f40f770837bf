import DocumentSchema.Proofs.Schema.Document

/-!
# Faults of documents

What a document can be refused for is listed: the faults of the settings, those
of the entities in catalog order and, in strict mode, the fields that are left
out. The error of a document is the first entry of the list, and without entries
the document is made.
-/
namespace DocumentSchema

open Traversal

def IsLetter (c : Char) : Prop := c = '_' ∨ ('A' ≤ c ∧ c ≤ 'Z') ∨ ('a' ≤ c ∧ c ≤ 'z')

/-- A text of the form `[_A-Za-z][_0-9A-Za-z]*`. -/
def HasNameForm (s : String) : Prop :=
  ∃ first rest, s.toList = first :: rest ∧ IsLetter first ∧
    ∀ c ∈ rest, IsLetter c ∨ ('0' ≤ c ∧ c ≤ '9')

theorem isAlpha_iff {c : Char} :
    c.isAlpha = true ↔ ('A' ≤ c ∧ c ≤ 'Z') ∨ ('a' ≤ c ∧ c ≤ 'z') := by
  delta Char.isAlpha Char.isUpper Char.isLower
  simp [Char.le_def]

theorem isNameStart_iff {c : Char} : isNameStart c = true ↔ IsLetter c := by
  simp [isNameStart, IsLetter, isAlpha_iff]

theorem isNamePart_iff {c : Char} :
    isNamePart c = true ↔ IsLetter c ∨ ('0' ≤ c ∧ c ≤ '9') := by
  simp [isNamePart, IsLetter, Char.isAlphanum, isAlpha_iff, Char.isDigit, Char.le_def, or_assoc]

theorem isName_iff {s : String} : isName s = true ↔ HasNameForm s := by
  unfold isName HasNameForm
  cases s.toList with
  | nil => simp
  | cons first rest => simp [isNameStart_iff, isNamePart_iff]

instance : DecidablePred HasNameForm := fun s => decidable_of_iff (isName s = true) isName_iff

theorem decide_hasNameForm (s : String) : decide (HasNameForm s) = isName s := by
  rw [Bool.eq_iff_iff, decide_eq_true_iff, isName_iff]

/-- The faults of settings: an indent is not empty and has spaces and tabs only. -/
def Settings.faults (s : Settings) : List SettingsError :=
  (if s.indent = "" then [.emptyIndent] else []) ++
    if s.indent.toList.all fun c => c = ' ' ∨ c = '\t' then [] else [.visibleIndent]

/-- The faults of an entity on its own: its name, then the names of fields, relationships and
resolved fields, then relationships that are also fields. -/
def Entity.faults (e : Entity) : List ModelError :=
  (if HasNameForm e.name then [] else [.invalidEntityName e.name]) ++
    (((e.fields.names ++ e.relationships.names ++ e.resolvedFields.names).filter
        fun n => ¬ HasNameForm n).map (.invalidFieldName e.name) ++
      (e.relationships.names.filter fun n => n ∈ e.fields.names).map (.duplicateField e.name))

namespace Catalog

/-- The faults of an entity within the catalog: references that lead nowhere come last. -/
def entityFaults (c : Catalog) (e : Entity) : List ModelError :=
  e.faults ++
    (e.references.filter fun r => r.2 ∉ c.names).map fun r => .unknownEntity e.name r.1 r.2

def faults (c : Catalog) : List ModelError := c.entities.flatMap c.entityFaults

def diagnostics (c : Catalog) : List Diagnostic := c.entities.flatMap Entity.diagnostics

/-- Everything that a document is refused for, in the order in which it is looked for. -/
def documentFaults (c : Catalog) (settings : Settings) : List SchemaError :=
  settings.faults.map .settings ++
    (c.faults.map .model ++ if settings.strict then c.diagnostics.map Diagnostic.toError else [])

end Catalog

theorem Settings.validate_eq (s : Settings) : s.validate = okUnless s.faults () := by
  unfold validate faults
  by_cases he : s.indent = ""
  · rw [if_pos he, if_pos he]
    rfl
  · rw [if_neg he, if_neg he, List.nil_append]
    split <;> rfl

theorem Entity.validate_eq (e : Entity) : e.validate = okUnless e.faults () := by
  have hform : (fun n : String => decide (¬ HasNameForm n)) = fun n => !isName n := by
    funext n
    rw [decide_not, decide_hasNameForm]
  have hfields : (fun n => decide (n ∈ e.fields.names)) = e.fields.contains := by
    funext n
    rw [NamedList.contains, List.contains_eq_mem]
  unfold validate faults
  by_cases hn : isName e.name = true
  · rw [if_neg (by simp [hn]), if_pos (isName_iff.mp hn), List.nil_append, okUnless_append,
      okUnless_map_filter, okUnless_map_filter, hform, hfields, declaredNames]
    cases (e.fields.names ++ e.relationships.names ++ e.resolvedFields.names).find?
      fun n => !isName n with
    | some n => rfl
    | none => cases e.relationships.names.find? e.fields.contains <;> rfl
  · rw [if_pos (by simp [hn]), if_neg (mt isName_iff.mpr hn)]
    rfl

namespace Catalog

theorem validateEntity_eq (c : Catalog) (e : Entity) :
    c.validateEntity e = okUnless (c.entityFaults e) () := by
  have hnames : (fun r : String × String => decide (r.2 ∉ c.names)) = fun r => !c.contains r.2 := by
    funext r
    rw [contains, List.contains_eq_mem, decide_not]
  rw [validateEntity, Entity.validate_eq, entityFaults, okUnless_append, okUnless_map_filter,
    hnames, danglingReference?]
  cases e.references.find? fun r => !c.contains r.2 <;> rfl

theorem validate_eq (c : Catalog) : c.validate = okUnless c.faults () :=
  forM_eq_okUnless fun e _ => c.validateEntity_eq e

/-- In a catalog without faults the walk over the entities has their diagnostics as faults. -/
theorem mapM_schema_eq {c : Catalog} (hc : c.faults = []) (strict : Bool)
    (source : FragmentSource) :
    (c.entities.mapM fun e => (c.mark e).schema strict source) =
      okUnless (if strict then c.diagnostics.map Diagnostic.toError else [])
        (c.entities.map fun e => (c.mark e).permissiveSchema source) := by
  have hv : ∀ e ∈ c.entities, (c.mark e).validate = .ok () := by
    intro e he
    have hfaults : c.entityFaults e = [] := List.flatMap_eq_nil_iff.mp hc e he
    rw [validate_mark, Entity.validate_eq, (List.append_eq_nil_iff.mp hfaults).1]
    rfl
  rw [mapM_eq_okUnless fun e he => Entity.schema_eq (hv e he) strict source]
  congr 1
  cases strict with
  | true => simp [diagnostics, List.map_flatMap]
  | false => exact List.flatMap_eq_nil_iff.mpr fun _ _ => rfl

/-- A document is made unless there are faults, and then its error is the first of them. -/
theorem document_eq (c : Catalog) (settings : Settings) (source : FragmentSource) :
    c.document settings source =
      okUnless (c.documentFaults settings) (c.permissiveDocument settings source) := by
  unfold document documentFaults
  rw [Settings.validate_eq, validate_eq]
  cases settings.faults with
  | cons fault rest => rfl
  | nil =>
    cases hc : c.faults with
    | cons fault rest => rfl
    | nil =>
      rw [mapM_schema_eq hc]
      exact map_okUnless _

end Catalog

theorem Settings.faults_eq_nil {s : Settings} :
    s.faults = [] ↔ s.indent ≠ "" ∧ ∀ c ∈ s.indent.toList, c = ' ' ∨ c = '\t' := by
  rw [← Settings.validate_eq_ok, Settings.validate_eq, okUnless_eq_ok]
  simp

theorem Entity.faults_eq_nil {e : Entity} :
    e.faults = [] ↔ HasNameForm e.name ∧
      (∀ n ∈ e.fields.names ++ e.relationships.names ++ e.resolvedFields.names, HasNameForm n) ∧
        ∀ n ∈ e.relationships.names, n ∉ e.fields.names := by
  have hname : (if HasNameForm e.name then [] else [ModelError.invalidEntityName e.name]) = [] ↔
      HasNameForm e.name := by simp
  simp only [faults, List.append_eq_nil_iff, hname, List.map_eq_nil_iff, List.filter_eq_nil_iff,
    decide_eq_true_eq, not_not]

namespace Catalog

theorem references_resolve_iff {c : Catalog} {e : Entity} :
    (∀ r ∈ e.references, r.2 ∈ c.names) ↔
      (∀ t, .object t ∈ e.fields.values ∨ .objectArray t ∈ e.fields.values → t ∈ c.names) ∧
        ∀ r ∈ e.relationships.values, r.target ∈ c.names := by
  simp only [Entity.mem_references, NamedList.values, List.mem_map, Prod.exists]
  constructor
  · intro h
    refine ⟨?_, ?_⟩
    · rintro t (⟨f, d, hd, rfl⟩ | ⟨f, d, hd, rfl⟩)
      · exact h (f, t) (Or.inl ⟨_, hd, rfl⟩)
      · exact h (f, t) (Or.inl ⟨_, hd, rfl⟩)
    · rintro r ⟨f, r, hr, rfl⟩
      exact h (f, r.target) (Or.inr ⟨r, hr, rfl⟩)
  · rintro ⟨hfields, hrelationships⟩ ⟨f, t⟩ (⟨d, hd, ht⟩ | ⟨r, hr, rfl⟩)
    · cases d <;> cases ht
      · exact hfields t (Or.inl ⟨f, _, hd, rfl⟩)
      · exact hfields t (Or.inr ⟨f, _, hd, rfl⟩)
    · exact hrelationships r ⟨f, r, hr, rfl⟩

theorem entityFaults_eq_nil {c : Catalog} {e : Entity} :
    c.entityFaults e = [] ↔ e.faults = [] ∧ ∀ r ∈ e.references, r.2 ∈ c.names := by
  simp [entityFaults, List.filter_eq_nil_iff]

/-- What makes an entity acceptable in the catalog: every name has the form of a name, no field is
also a relationship, and every reference leads to an entity of the catalog. -/
structure Accepts (c : Catalog) (e : Entity) : Prop where
  name : HasNameForm e.name
  keys : ∀ n ∈ e.fields.names ++ e.relationships.names ++ e.resolvedFields.names, HasNameForm n
  disjoint : ∀ n ∈ e.relationships.names, n ∉ e.fields.names
  embedded : ∀ t, .object t ∈ e.fields.values ∨ .objectArray t ∈ e.fields.values → t ∈ c.names
  related : ∀ r ∈ e.relationships.values, r.target ∈ c.names

theorem accepts_iff_faults {c : Catalog} {e : Entity} : c.Accepts e ↔ c.entityFaults e = [] := by
  rw [entityFaults_eq_nil, Entity.faults_eq_nil, references_resolve_iff]
  constructor
  · rintro ⟨hn, hk, hd, he, hr⟩
    exact ⟨⟨hn, hk, hd⟩, he, hr⟩
  · rintro ⟨⟨hn, hk, hd⟩, he, hr⟩
    exact ⟨hn, hk, hd, he, hr⟩

/-- Without strict mode a document is made exactly when the indent is made of blanks and every
entity is acceptable. It has one schema for each entity, in catalog order. A document that is not
made fails with the first fault: of the settings, then of the entities one after the other. -/
theorem document_acceptance {c : Catalog} {settings : Settings} (source : FragmentSource)
    (hs : settings.strict = false) :
    ((∃ doc, c.document settings source = .ok doc) ↔
        (settings.indent ≠ "" ∧ ∀ ch ∈ settings.indent.toList, ch = ' ' ∨ ch = '\t') ∧
          ∀ e ∈ c.entities, c.Accepts e) ∧
      (∀ doc, c.document settings source = .ok doc →
        List.Forall₂ (fun e s => s.name = e.name ∧ (c.mark e).schema false source = .ok s)
          c.entities doc.entities) ∧
      ∀ fault, c.document settings source = .error fault ↔
        (c.documentFaults settings).head? = some fault := by
  have hfaults : c.documentFaults settings = [] ↔ settings.faults = [] ∧ c.faults = [] := by
    simp [documentFaults, hs]
  refine ⟨?_, ?_, ?_⟩
  · rw [document_eq, okUnless_isOk, hfaults, Settings.faults_eq_nil, faults,
      List.flatMap_eq_nil_iff]
    simp only [accepts_iff_faults]
  · intro doc hdoc
    obtain ⟨-, hc, -, rfl⟩ := document_eq_ok.mp hdoc
    rw [permissiveDocument, List.forall₂_map_right_iff, List.forall₂_same]
    intro e he
    have hv : (c.mark e).validate = .ok () := by
      rw [validate_mark]
      exact (validate_eq_ok.mp hc e he).1
    exact ⟨c.name_mark e, Entity.schema_eq hv false source⟩
  · intro fault
    rw [document_eq, okUnless_eq_error]

end Catalog

def Entity.misfit : Entity where
  name := "Shelf"
  fields := ⟨[("books", .objectArray "Book")], by decide⟩
  relationships := ⟨[("books", ⟨"Store", true⟩)], by decide⟩
  resolvedFields := ⟨[("total width", "Float")], by decide⟩
  manualArguments := []
  extras := .none
  table := false
  usedInArray := false

/-- The library is accepted. Behind entities that are acceptable the misfit is not, and of its
faults the key is found first. -/
theorem Catalog.library_accepted_misfit_refused :
    (∃ doc, library.document .default .none = .ok doc ∧
        (∀ e ∈ library.entities, library.Accepts e) ∧
        List.Forall₂ (fun (e : Entity) s => s.name = e.name) [.book, .author] doc.entities) ∧
      ∃ c : Catalog, c.entities = [.author, .book, .misfit] ∧ Settings.default.strict = false ∧
        c.document .default .none = .error (.model (.invalidFieldName "Shelf" "total width")) := by
  constructor
  · have hdefault : Settings.default.strict = false := rfl
    obtain ⟨hmade, hschemas, -⟩ := library.document_acceptance .none hdefault
    exact ⟨_, document_library .none, (hmade.mp ⟨_, document_library .none⟩).2,
      (hschemas _ (document_library .none)).imp fun _ _ hs => hs.1⟩
  · refine ⟨⟨[.author, .book, .misfit], by decide⟩, rfl, rfl, ?_⟩
    exact ((document_acceptance .none rfl).2.2 _).mpr (by decide)

end DocumentSchema

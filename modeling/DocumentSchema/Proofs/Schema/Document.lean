import DocumentSchema.Proofs.Catalog
import DocumentSchema.Proofs.Schema.Plans

/-!
# When a document is made

A document is made exactly when the settings and the catalog are valid and, in
strict mode, no field is unsupported. It is then the document in which
unsupported fields are left out.
-/
namespace DocumentSchema

namespace Entity

theorem schema_eq {e : Entity} (hv : e.validate = .ok ()) (strict : Bool)
    (source : FragmentSource) :
    e.schema strict source =
      Traversal.okUnless (if strict then e.diagnostics.map Diagnostic.toError else [])
        (e.permissiveSchema source) := by
  unfold schema
  rw [hv, omissions_eq]
  exact Traversal.map_okUnless _

theorem schema_eq_ok {e : Entity} {strict : Bool} {source : FragmentSource} {s : EntitySchema} :
    e.schema strict source = .ok s ↔
      e.validate = .ok () ∧ (strict = true → e.diagnostics = []) ∧
        s = e.permissiveSchema source := by
  cases hv : e.validate with
  | error fault => simp [schema, hv]
  | ok =>
    have hfaults : (if strict then e.diagnostics.map Diagnostic.toError else []) = [] ↔
        (strict = true → e.diagnostics = []) := by
      cases strict <;> simp
    rw [schema_eq hv, Traversal.okUnless_eq_ok, hfaults]
    constructor
    · rintro ⟨hd, rfl⟩
      exact ⟨rfl, hd, rfl⟩
    · rintro ⟨-, hd, rfl⟩
      exact ⟨hd, rfl⟩

end Entity

namespace Catalog

/-- The document of a catalog with unsupported fields left out. -/
def permissiveDocument (c : Catalog) (settings : Settings) (source : FragmentSource) :
    SchemaDocument :=
  ⟨c.entities.map fun e => (c.mark e).permissiveSchema source, ⟨settings.indent⟩,
    settings.emitPrelude⟩

theorem mapM_schema_eq_ok {c : Catalog} {strict : Bool} {source : FragmentSource}
    {ss : List EntitySchema} :
    (c.entities.mapM fun e => (c.mark e).schema strict source) = .ok ss ↔
      (∀ e ∈ c.entities, e.validate = .ok () ∧ (strict = true → e.diagnostics = [])) ∧
        ss = c.entities.map fun e => (c.mark e).permissiveSchema source := by
  simp only [Traversal.mapM_eq_ok, Entity.schema_eq_ok, validate_mark, diagnostics_mark]
  induction c.entities generalizing ss with
  | nil => cases ss <;> simp
  | cons e es ih =>
    simp only [List.forall₂_cons_left_iff, ih, List.forall_mem_cons, List.map_cons]
    constructor
    · rintro ⟨s, rest, ⟨hv, hd, rfl⟩, ⟨hall, rfl⟩, rfl⟩
      exact ⟨⟨⟨hv, hd⟩, hall⟩, rfl⟩
    · rintro ⟨⟨⟨hv, hd⟩, hall⟩, rfl⟩
      exact ⟨_, _, ⟨hv, hd, rfl⟩, ⟨hall, rfl⟩, rfl⟩

theorem document_eq_ok {c : Catalog} {settings : Settings} {source : FragmentSource}
    {doc : SchemaDocument} :
    c.document settings source = .ok doc ↔
      settings.validate = .ok () ∧ c.validate = .ok () ∧
        (settings.strict = true → ∀ e ∈ c.entities, e.diagnostics = []) ∧
          doc = c.permissiveDocument settings source := by
  unfold document
  cases hs : settings.validate with
  | error fault => simp
  | ok =>
    cases hc : c.validate with
    | error fault => simp
    | ok =>
      have hv : ∀ e ∈ c.entities, e.validate = .ok () := fun e he => (validate_eq_ok.mp hc e he).1
      simp only [Traversal.bind_eq_ok, mapM_schema_eq_ok, true_and]
      constructor
      · rintro ⟨ss, ⟨hall, rfl⟩, hd⟩
        exact ⟨fun hstrict e he => (hall e he).2 hstrict, (Except.ok.inj hd).symm⟩
      · rintro ⟨hall, rfl⟩
        exact ⟨_, ⟨fun e he => ⟨hv e he, fun hstrict => hall hstrict e he⟩, rfl⟩, rfl⟩

section Made

variable {c : Catalog} {settings : Settings} {source : FragmentSource} {doc : SchemaDocument}

theorem validate_of_document (h : c.document settings source = .ok doc) : c.validate = .ok () :=
  (document_eq_ok.mp h).2.1

theorem entities_of_document (h : c.document settings source = .ok doc) :
    doc.entities = c.entities.map fun e => (c.mark e).permissiveSchema source := by
  obtain ⟨-, -, -, rfl⟩ := document_eq_ok.mp h
  rfl

theorem emitPrelude_of_document (h : c.document settings source = .ok doc) :
    doc.emitPrelude = settings.emitPrelude := by
  obtain ⟨-, -, -, rfl⟩ := document_eq_ok.mp h
  rfl

end Made

end Catalog

namespace Entity

/-- Stored books, with a field of every form, an embedded array and a relationship. -/
def book : Entity where
  name := "Book"
  fields := ⟨[("_id", .scalar .id), ("title", .scalar .string), ("pages", .scalar .int),
    ("published", .date), ("editions", .scalarArray .int), ("shape", .literal "[Point!]"),
    ("authors", .objectArray "Author")], by decide⟩
  relationships := ⟨[("related", ⟨"Book", true⟩)], by decide⟩
  resolvedFields := ⟨[("score", "Float")], by decide⟩
  manualArguments := [⟨"shelf", "Shelf"⟩]
  extras := .none
  table := true
  usedInArray := false

def author : Entity where
  name := "Author"
  fields := ⟨[("name", .scalar .string), ("latest", .object "Book")], by decide⟩
  relationships := .empty
  resolvedFields := .empty
  manualArguments := []
  extras := .none
  table := false
  usedInArray := false

def shelf : Entity where
  name := "Shelf"
  fields := ⟨[("_id", .unsupported "Barcode"), ("label", .scalar .string),
    ("width", .unsupported "Length"), ("books", .objectArray "Book")], by decide⟩
  relationships := ⟨[("above", ⟨"Shelf", false⟩)], by decide⟩
  resolvedFields := ⟨[("load", "Float")], by decide⟩
  manualArguments := []
  extras := .none
  table := true
  usedInArray := false

end Entity

namespace Catalog

def library : Catalog := ⟨[.book, .author], by decide⟩

def holdings : Catalog := ⟨[.book, .shelf, .author], by decide⟩

theorem validate_library : library.validate = .ok () := by
  rfl

theorem document_library (source : FragmentSource) :
    library.document .default source = .ok (library.permissiveDocument .default source) :=
  document_eq_ok.mpr ⟨rfl, validate_library, nofun, rfl⟩

theorem document_holdings (source : FragmentSource) :
    holdings.document .default source = .ok (holdings.permissiveDocument .default source) :=
  document_eq_ok.mpr ⟨rfl, rfl, nofun, rfl⟩

end Catalog

end DocumentSchema

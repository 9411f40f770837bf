import DocumentSchema.Proofs.Schema.Faults

/-!
# Strict and permissive documents

Strictness decides only what becomes of unsupported fields. A permissive document
leaves them out and lists them as diagnostics; in strict mode the first diagnostic
of that list is the error.
-/
namespace DocumentSchema

open Traversal

namespace Catalog

theorem diagnostics_permissiveDocument (c : Catalog) (settings : Settings)
    (source : FragmentSource) :
    (c.permissiveDocument settings source).diagnostics = c.diagnostics := by
  simp only [SchemaDocument.diagnostics, permissiveDocument, diagnostics, List.flatMap_map,
    Entity.permissiveSchema, diagnostics_mark]

/-- The faults of a strict document are those of the permissive one and, after them, its
diagnostics. -/
theorem documentFaults_strict (c : Catalog) (settings : Settings) :
    c.documentFaults { settings with strict := true } =
      c.documentFaults { settings with strict := false } ++
        c.diagnostics.map Diagnostic.toError := by
  simp [documentFaults, Settings.faults]

/-- A strict document is the permissive one with its first diagnostic, if there is any, promoted to
an error. The diagnostics stand in catalog order and for each entity in the order of its fields. -/
theorem document_strict (c : Catalog) (settings : Settings) (source : FragmentSource) :
    (c.document { settings with strict := true } source =
        match c.document { settings with strict := false } source with
        | .error fault => .error fault
        | .ok doc =>
          match doc.diagnostics with
          | [] => .ok doc
          | d :: _ => .error d.toError) ∧
      ∀ doc, c.document { settings with strict := false } source = .ok doc →
        doc.diagnostics = c.entities.flatMap Entity.diagnostics := by
  constructor
  · rw [document_eq, document_eq, documentFaults_strict]
    cases c.documentFaults { settings with strict := false } with
    | cons fault rest => rfl
    | nil =>
      have hd := c.diagnostics_permissiveDocument { settings with strict := false } source
      simp only [List.nil_append, okUnless_nil, hd]
      cases c.diagnostics <;> rfl
  · intro doc hdoc
    obtain ⟨-, -, -, rfl⟩ := document_eq_ok.mp hdoc
    exact c.diagnostics_permissiveDocument _ source

theorem holdings_document_strict : ∃ doc,
    holdings.document { Settings.default with strict := false } .none = .ok doc ∧
      doc.diagnostics = [⟨"Shelf", "_id", "Barcode"⟩, ⟨"Shelf", "width", "Length"⟩] ∧
      holdings.document { Settings.default with strict := true } .none =
        .error (.unsupportedDescriptor "Shelf" "_id" "Barcode") := by
  obtain ⟨hstrict, hdiagnostics⟩ := holdings.document_strict .default .none
  have hd := hdiagnostics _ (document_holdings .none)
  refine ⟨_, document_holdings .none, hd, ?_⟩
  rw [hstrict]
  rfl

end Catalog

end DocumentSchema

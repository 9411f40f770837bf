import DocumentSchema.Json.Record

/-!
# Settings

What can be chosen about the generation of a schema.
-/
namespace DocumentSchema

/-- `strict` refuses unsupported descriptors, `indent` stands before every field, and
`emitPrelude` puts the shared declarations in front of a document. -/
structure Settings where
  strict : Bool
  indent : String
  emitPrelude : Bool
  deriving DecidableEq, Repr

inductive SettingsError
  | unreadableFile
  | malformed
  | emptyIndent
  | visibleIndent
  deriving DecidableEq, Repr

/-- The part of a fault's text that does not depend on the reader of the file. -/
def SettingsError.message : SettingsError → String
  | unreadableFile => "Failed to read configuration"
  | malformed => "TOML parse error"
  | emptyIndent => "Configuration error: codegen.indent must not be empty"
  | visibleIndent => "Configuration error: codegen.indent must contain only spaces or tabs"

namespace Settings

def default : Settings := ⟨false, "  ", true⟩

/-- An indent is made of spaces and tabs and is not empty. -/
def validate (s : Settings) : Except SettingsError Unit :=
  if s.indent = "" then .error .emptyIndent
  else if s.indent.toList.all fun c => c = ' ' ∨ c = '\t' then .ok ()
  else .error .visibleIndent

theorem validate_eq_ok {s : Settings} :
    s.validate = .ok () ↔ s.indent ≠ "" ∧ ∀ c ∈ s.indent.toList, c = ' ' ∨ c = '\t' := by
  unfold validate
  by_cases h : s.indent = ""
  · simp [h]
  · by_cases hb : s.indent.toList.all fun c => c = ' ' ∨ c = '\t'
    · simp_all
    · simp_all

def memberNames : List String := ["strict", "indent", "emit_prelude"]

def ofJson? (j : Json) : Option Settings := do
  match ← j.fields? memberNames with
  | [strict, indent, emitPrelude] =>
    let strict ← Json.optional default.strict Json.bool? strict
    let indent ← Json.optional default.indent Json.string? indent
    let emitPrelude ← Json.optional default.emitPrelude Json.bool? emitPrelude
    return ⟨strict, indent, emitPrelude⟩
  | _ => none

def toJson (s : Settings) : Json :=
  .object [("strict", .bool s.strict), ("indent", .string s.indent),
    ("emit_prelude", .bool s.emitPrelude)]

end Settings

end DocumentSchema

import DocumentSchema.Settings
import DocumentSchema.Toml.Reader

/-!
# Settings in files

Settings are written in TOML, in a table called `codegen` or at the top of the
document. The table may also be an array of the values in their order. Entries
that mean nothing here are ignored, but the numbers in them have to be
representable.
-/
namespace DocumentSchema

namespace Settings

def bool? : Option Toml → (default : Bool) → Option Bool
  | none, default => some default
  | some (.bool b), _ => some b
  | _, _ => none

def string? : Option Toml → (default : String) → Option String
  | none, default => some default
  | some (.string s), _ => some s
  | _, _ => none

def ofFields? (strict indent emitPrelude : Option Toml) : Option Settings := do
  let strict ← bool? strict default.strict
  let indent ← string? indent default.indent
  let emitPrelude ← bool? emitPrelude default.emitPrelude
  return ⟨strict, indent, emitPrelude⟩

/-- A date is read as a table without any entry that is known. -/
def ofToml? : Toml → Option Settings
  | .table entries =>
    if Toml.entriesRepresentable entries then
      ofFields? (entries.lookup "strict") (entries.lookup "indent") (entries.lookup "emit_prelude")
    else none
  | .array items => ofFields? items[0]? items[1]? items[2]?
  | .dateTime => some default
  | _ => none

def ofDocument? (entries : List (String × Toml)) : Option Settings :=
  match entries.lookup "codegen" with
  | none => ofToml? (.table entries)
  | some table =>
    if Toml.entriesRepresentable (entries.filter fun e => e.1 ≠ "codegen") then ofToml? table
    else none

def ofText (text : String) : Except SettingsError Settings :=
  match (Toml.read text).bind ofDocument? with
  | none => .error .malformed
  | some s => s.validate.map fun _ => s

/-- The settings in a file, given its bytes if there is such a file. -/
def ofFile (bytes : Option ByteArray) : Except SettingsError Settings :=
  match bytes.bind String.fromUTF8? with
  | none => .error .unreadableFile
  | some text => ofText text

end Settings

end DocumentSchema

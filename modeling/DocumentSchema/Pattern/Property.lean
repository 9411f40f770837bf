import DocumentSchema.Pattern.Property.Category
import DocumentSchema.Pattern.Property.Script
import DocumentSchema.Pattern.Property.ScriptExtension
import DocumentSchema.Pattern.Property.Binary
import DocumentSchema.Pattern.Property.Age
import DocumentSchema.Pattern.Property.Break
import DocumentSchema.Pattern.CaseOrbit

/-!
# Character properties

Properties are looked up by loosely written names: case, spaces, hyphens and
underscores do not count, nor does a leading `is`.
-/
namespace DocumentSchema

inductive PropertyQuery
  | name (text : String)
  | value (property value : String)
  deriving DecidableEq, Repr

namespace Property

/-- A name without what does not count in it. -/
def normalize (name : String) : String :=
  let bare (cs : List Char) : List Char :=
    (cs.filter fun c => c.toNat < 128 ∧ c ≠ ' ' ∧ c ≠ '_' ∧ c ≠ '-').map Char.toLower
  match name.toList with
  | i :: s :: rest =>
    if (i = 'i' ∨ i = 'I') ∧ (s = 's' ∨ s = 'S') then
      if bare rest = ['c'] then "isc" else String.ofList (bare rest)
    else String.ofList (bare (i :: s :: rest))
  | cs => String.ofList (bare cs)

/-- The categories that a group of categories joins. -/
def categoryGroup? (name : String) : Option (List String) :=
  match name with
  | "l" | "letter" => some ["lu", "ll", "lt", "lm", "lo"]
  | "lc" | "casedletter" => some ["lu", "ll", "lt"]
  | "m" | "mark" | "combiningmark" => some ["mn", "mc", "me"]
  | "n" | "number" => some ["nd", "nl", "no"]
  | "p" | "punctuation" | "punct" => some ["pc", "pd", "ps", "pe", "pi", "pf", "po"]
  | "s" | "symbol" => some ["sm", "sc", "sk", "so"]
  | "z" | "separator" => some ["zs", "zl", "zp"]
  | _ => none

def unionOf (sets : List CharSet) : CharSet := CharSet.ofRanges (sets.flatMap CharSet.ranges)

def unassigned : CharSet := (unionOf (categoryRows.map fun row => decode row.2)).complement

def category? (name : String) : Option CharSet :=
  match name with
  | "any" => some .all
  | "assigned" => some unassigned.complement
  | "ascii" => some ⟨[(0, 127)]⟩
  | "cn" | "unassigned" => some unassigned
  | "c" | "other" =>
    some (unionOf (unassigned :: (["cc", "cf", "co"].filterMap (lookup? categoryRows))))
  | _ =>
    match categoryGroup? name with
    | some members => some (unionOf (members.filterMap (lookup? categoryRows)))
    | none => lookup? categoryRows name

def binary? (name : String) : Option CharSet := lookup? binaryRows name

def script? (name : String) : Option CharSet := lookup? scriptRows name

def scriptExtension? (name : String) : Option CharSet :=
  match lookup? scriptExtensionRows name with
  | some s => some s
  | none => script? name

/-- Everything that was assigned up to a version. -/
def age? (name : String) : Option CharSet :=
  let older := ageRows.takeWhile fun row => !row.1.contains name
  if older.length < ageRows.length then
    some (unionOf ((ageRows.take (older.length + 1)).map fun row => decode row.2))
  else none

/-- A name alone is a binary property, a category or a script. Three short names are shared, and
the category has them. -/
def byName? (name : String) : Option CharSet :=
  let shared := name = "cf" ∨ name = "sc" ∨ name = "lc"
  (if shared then none else binary? name).or ((category? name).or (script? name))

def byValue? (property value : String) : Option CharSet :=
  match property with
  | "gc" | "generalcategory" => category? value
  | "sc" | "script" => script? value
  | "scx" | "scriptextensions" => scriptExtension? value
  | "age" => age? value
  | "gcb" | "graphemeclusterbreak" => lookup? graphemeBreakRows value
  | "sb" | "sentencebreak" => lookup? sentenceBreakRows value
  | "wb" | "wordbreak" => lookup? wordBreakRows value
  | _ => none

def find? : PropertyQuery → Option CharSet
  | .name text => byName? (normalize text)
  | .value property value => byValue? (normalize property) (normalize value)

def named (name : String) : CharSet := (byName? name).getD .empty

def whiteSpace : CharSet := named "whitespace"

def decimalDigit : CharSet := named "nd"

def alphabetic : CharSet := named "alphabetic"

def number : CharSet := named "n"

/-- The characters of words: letters and marks, digits, connectors and joiners. -/
def word : CharSet :=
  unionOf [alphabetic, named "m", decimalDigit, named "pc", named "joincontrol"]

end Property

namespace CharSet

/-- Adds every character that differs only in case from one of the set. -/
def foldCase (s : CharSet) : CharSet :=
  let touched := CaseOrbit.all.filter fun orbit =>
    orbit.any fun c => s.ranges.any fun (lo, hi) => lo ≤ c && c ≤ hi
  ofRanges (s.ranges ++ touched.flatMap fun orbit => orbit.map fun c => (c, c))

/-- Adds the other case of the ASCII letters of the set. -/
def foldAsciiCase (s : CharSet) : CharSet :=
  let lower := s.inter ⟨[(0x61, 0x7A)]⟩
  let upper := s.inter ⟨[(0x41, 0x5A)]⟩
  ofRanges (s.ranges ++ lower.ranges.map (fun (a, b) => (a - 32, b - 32)) ++
    upper.ranges.map fun (a, b) => (a + 32, b + 32))

end CharSet

end DocumentSchema

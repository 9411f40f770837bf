import DocumentSchema.Json.Basic

/-!
# Printing JSON

The compact form: no blanks, members in the order they have, and in texts only
what must be escaped is escaped. A tree that was read whole prints to a text
that denotes the same tree.
-/
namespace DocumentSchema

namespace Json

/-- The escape of one character inside quotes: the short ones, `\u00xx` for other control
characters, everything else as it is. -/
def escapeChar (c : Char) : String :=
  if c = '"' then "\\\""
  else if c = '\\' then "\\\\"
  else if c = '\n' then "\\n"
  else if c = '\r' then "\\r"
  else if c = '\t' then "\\t"
  else if c = '\x08' then "\\b"
  else if c = '\x0c' then "\\f"
  else if c.toNat < 0x20 then
    "\\u00" ++ String.ofList [Nat.digitChar (c.toNat / 16), Nat.digitChar (c.toNat % 16)]
  else String.singleton c

def quote (s : String) : String := "\"" ++ String.join (s.toList.map escapeChar) ++ "\""

mutual

/-- The compact text of a tree; an unreadable part has no text of its own and prints as `null`. -/
def print : Json → String
  | .null => "null"
  | .bool true => "true"
  | .bool false => "false"
  | .number n => n.text
  | .string s => quote s
  | .array items => "[" ++ ",".intercalate (printItems items) ++ "]"
  | .object members => "\x7b" ++ ",".intercalate (printMembers members) ++ "\x7d"
  | .unreadable => "null"

def printItems : List Json → List String
  | [] => []
  | j :: rest => j.print :: printItems rest

def printMembers : List (String × Json) → List String
  | [] => []
  | (k, j) :: rest => (quote k ++ ":" ++ j.print) :: printMembers rest

end

end Json

def Value.print (v : Value) : String := v.toJson.print

end DocumentSchema

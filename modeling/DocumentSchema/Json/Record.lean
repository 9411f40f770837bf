import DocumentSchema.Json.Basic

/-!
# Reading parts of a JSON tree

A record is written as an object, or as an array of its fields in the declared
order. Of an object only the declared members are looked at, and none of them
may be repeated; an array may stop early but has no surplus items.
-/
namespace DocumentSchema

namespace Json

def bool? : Json → Option Bool
  | .bool b => some b
  | _ => none

def string? : Json → Option String
  | .string s => some s
  | _ => none

def items? : Json → Option (List Json)
  | .array items => some items
  | _ => none

def list? {α : Type} (item : Json → Option α) : Json → Option (List α)
  | .array items => items.mapM item
  | _ => none

/-- The entries of an object in their order, repeats included. -/
def entries? {α : Type} (value : Json → Option α) : Json → Option (List (String × α))
  | .object members => members.mapM fun (k, j) => (value j).map (k, ·)
  | _ => none

/-- The only member called `name`, if there is one; the outer `none` means a repeated member. -/
def unique? (name : String) (members : List (String × Json)) : Option (Option Json) :=
  match members.filter fun m => m.1 = name with
  | [] => some none
  | [m] => some (some m.2)
  | _ => none

def fields? (names : List String) : Json → Option (List (Option Json))
  | .array items =>
    if items.length ≤ names.length then
      some (items.map some ++ List.replicate (names.length - items.length) none)
    else none
  | .object members => names.mapM fun name => unique? name members
  | _ => none

def required {α : Type} (read : Json → Option α) (field : Option Json) : Option α :=
  field.bind read

/-- A field that stands for `default` when it is absent. -/
def optional {α : Type} (default : α) (read : Json → Option α) : Option Json → Option α
  | none => some default
  | some j => read j

end Json

end DocumentSchema

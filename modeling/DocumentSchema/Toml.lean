/-!
# TOML values

The value of a TOML document as far as settings can ask for it. Of a float only
its being finite is kept, and of a date or time nothing.
-/
namespace DocumentSchema

/-- A float counts as finite when its text does, so infinity by name is no overflow. -/
inductive Toml
  | string (s : String)
  | bool (b : Bool)
  | integer (n : Int)
  | float (overflows : Bool)
  | dateTime
  | array (items : List Toml)
  | table (entries : List (String × Toml))
  deriving Repr

namespace Toml

def leastInteger : Int := -0x80000000000000000000000000000000

def greatestInteger : Int := 0xFFFFFFFFFFFFFFFFFFFFFFFFFFFFFFFF

mutual

/-- Whether every number of a value can be represented. -/
def isRepresentable : Toml → Bool
  | .integer n => leastInteger ≤ n ∧ n ≤ greatestInteger
  | .float overflows => !overflows
  | .array items => itemsRepresentable items
  | .table entries => entriesRepresentable entries
  | _ => true

def itemsRepresentable : List Toml → Bool
  | [] => true
  | v :: rest => v.isRepresentable && itemsRepresentable rest

def entriesRepresentable : List (String × Toml) → Bool
  | [] => true
  | (_, v) :: rest => v.isRepresentable && entriesRepresentable rest

end

end Toml

end DocumentSchema

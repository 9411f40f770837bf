import DocumentSchema.Json.Double

/-!
# JSON trees and values

A `Json` is a document as it is written: members keep their order and their
repeats, and a part that obeys the grammar but denotes nothing (a number too
large for a double, half of a surrogate pair) stays in place as `unreadable`,
since a reader that never looks at it is not concerned. A `Value` is what a
document denotes: members are in key order, one for each key.
-/
namespace DocumentSchema

/-- A number written as an integer stays exact; any other is a double. -/
inductive Number
  | int (value : Int)
  | double (value : Double)
  deriving DecidableEq, Repr

/-- The double that a number denotes, rounding integers that have no exact one. -/
def Number.toDouble : Number → Double
  | int n => Double.ofInt n
  | double d => d

def Number.text : Number → String
  | int n => toString n
  | double d => d.text

inductive Json
  | null
  | bool (b : Bool)
  | number (n : Number)
  | string (s : String)
  | array (items : List Json)
  | object (members : List (String × Json))
  | unreadable
  deriving Repr

inductive Value
  | null
  | bool (b : Bool)
  | number (n : Number)
  | string (s : String)
  | array (items : List Value)
  | object (members : List (String × Value))
  deriving Repr

namespace Value

/-- Puts a member at its place in key order, over an earlier one with that key. -/
def insertMember {α : Type} (key : String) (value : α) :
    List (String × α) → List (String × α)
  | [] => [(key, value)]
  | (k, v) :: rest =>
    if key = k then (key, value) :: rest
    else if key < k then (key, value) :: (k, v) :: rest
    else (k, v) :: insertMember key value rest

/-- Members in key order; of members that share a key the last one stays. -/
def sortMembers {α : Type} (members : List (String × α)) : List (String × α) :=
  members.foldl (fun sorted (k, v) => insertMember k v sorted) []

theorem mem_keys_insertMember {α : Type} {key k : String} {value : α} {l : List (String × α)} :
    k ∈ (insertMember key value l).map Prod.fst ↔ k = key ∨ k ∈ l.map Prod.fst := by
  induction l with
  | nil => simp [insertMember]
  | cons p rest ih =>
    unfold insertMember
    split
    · rename_i h; simp [h]
    · split
      · simp
      · simp only [List.map_cons, List.mem_cons, ih]
        exact or_left_comm

theorem pairwise_insertMember {α : Type} (key : String) (value : α) {l : List (String × α)}
    (h : (l.map Prod.fst).Pairwise (· < ·)) :
    ((insertMember key value l).map Prod.fst).Pairwise (· < ·) := by
  induction l with
  | nil => simp [insertMember]
  | cons p rest ih =>
    have hp := List.pairwise_cons.1 h
    unfold insertMember
    split
    · rename_i e
      exact e ▸ h
    · rename_i hne
      split
      · rename_i hlt
        refine List.pairwise_cons.2 ⟨?_, h⟩
        intro k hk
        rcases List.mem_cons.1 hk with rfl | hk
        · exact hlt
        · exact String.lt_trans hlt (hp.1 k hk)
      · rename_i hnlt
        refine List.pairwise_cons.2 ⟨?_, ih hp.2⟩
        intro k hk
        rcases mem_keys_insertMember.1 hk with hk | hk
        · subst hk
          exact Decidable.byContradiction fun hle =>
            hne (String.le_antisymm (String.not_lt.1 hle) (String.not_lt.1 hnlt))
        · exact hp.1 k hk

theorem pairwise_sortMembers {α : Type} (members : List (String × α)) :
    ((sortMembers members).map Prod.fst).Pairwise (· < ·) := by
  have general (sorted : List (String × α)) (h : (sorted.map Prod.fst).Pairwise (· < ·)) :
      ((members.foldl (fun sorted (k, v) => insertMember k v sorted) sorted).map
        Prod.fst).Pairwise (· < ·) := by
    induction members generalizing sorted with
    | nil => exact h
    | cons p rest ih => exact ih _ (pairwise_insertMember p.1 p.2 h)
  exact general [] List.Pairwise.nil

mutual

def ofJson? : Json → Option Value
  | .null => some .null
  | .bool b => some (.bool b)
  | .number n => some (.number n)
  | .string s => some (.string s)
  | .array items => (ofItems? items).map .array
  | .object members => (ofMembers? members).map fun ms => .object (sortMembers ms)
  | .unreadable => none

def ofItems? : List Json → Option (List Value)
  | [] => some []
  | j :: rest =>
    match ofJson? j, ofItems? rest with
    | some v, some vs => some (v :: vs)
    | _, _ => none

def ofMembers? : List (String × Json) → Option (List (String × Value))
  | [] => some []
  | (k, j) :: rest =>
    match ofJson? j, ofMembers? rest with
    | some v, some vs => some ((k, v) :: vs)
    | _, _ => none

end

/-- The keys of an object that is read ascend. -/
theorem pairwise_of_ofJson? {j : Json} {members : List (String × Value)}
    (h : ofJson? j = some (.object members)) : (members.map Prod.fst).Pairwise (· < ·) := by
  cases j with
  | object written =>
    obtain ⟨ms, -, hms⟩ := Option.map_eq_some_iff.1 h
    cases hms
    exact pairwise_sortMembers ms
  | array items =>
    obtain ⟨vs, -, hvs⟩ := Option.map_eq_some_iff.1 h
    cases hvs
  | _ => cases h

mutual

def toJson : Value → Json
  | .null => .null
  | .bool b => .bool b
  | .number n => .number n
  | .string s => .string s
  | .array items => .array (itemsToJson items)
  | .object members => .object (membersToJson members)

def itemsToJson : List Value → List Json
  | [] => []
  | v :: rest => v.toJson :: itemsToJson rest

def membersToJson : List (String × Value) → List (String × Json)
  | [] => []
  | (k, v) :: rest => (k, v.toJson) :: membersToJson rest

end

def member? (key : String) : List (String × Value) → Option Value
  | [] => none
  | (k, v) :: rest => if k = key then some v else member? key rest

def isNull : Value → Bool
  | .null => true
  | _ => false

end Value

namespace Json

mutual

/-- The tree with every array or object inside more than `room` others made unreadable. -/
def withinDepth (room : Nat) : Json → Json
  | .array items =>
    match room with
    | 0 => .unreadable
    | room + 1 => .array (itemsWithinDepth room items)
  | .object members =>
    match room with
    | 0 => .unreadable
    | room + 1 => .object (membersWithinDepth room members)
  | .null => .null
  | .bool b => .bool b
  | .number n => .number n
  | .string s => .string s
  | .unreadable => .unreadable

def itemsWithinDepth (room : Nat) : List Json → List Json
  | [] => []
  | j :: rest => j.withinDepth room :: itemsWithinDepth room rest

def membersWithinDepth (room : Nat) : List (String × Json) → List (String × Json)
  | [] => []
  | (k, j) :: rest => (k, j.withinDepth room) :: membersWithinDepth room rest

end

def maxDepth : Nat := 127

end Json

end DocumentSchema

/-!
# Lists of named values

A `NamedList` keeps values under distinct names in the order in which the names
were first used. Using a name again replaces its value and keeps its place.
-/
namespace DocumentSchema

structure NamedList (α : Type) where
  entries : List (String × α)
  distinct : (entries.map Prod.fst).Nodup

namespace NamedList

variable {α : Type}

@[ext] theorem ext {a b : NamedList α} (h : a.entries = b.entries) : a = b := by
  cases a; cases b; cases h; rfl

def empty : NamedList α := ⟨[], List.nodup_nil⟩

instance : Inhabited (NamedList α) := ⟨empty⟩

def names (l : NamedList α) : List String := l.entries.map Prod.fst

def values (l : NamedList α) : List α := l.entries.map Prod.snd

def get? (l : NamedList α) (name : String) : Option α := l.entries.lookup name

def contains (l : NamedList α) (name : String) : Bool := l.names.contains name

def size (l : NamedList α) : Nat := l.entries.length

def isEmpty (l : NamedList α) : Bool := l.entries.isEmpty

/-- Replaces the value under `name`, or adds the pair at the end. -/
def put (name : String) (value : α) : List (String × α) → List (String × α)
  | [] => [(name, value)]
  | (n, v) :: rest => if n = name then (name, value) :: rest else (n, v) :: put name value rest

theorem map_fst_put (name : String) (value : α) (l : List (String × α)) :
    (put name value l).map Prod.fst =
      if name ∈ l.map Prod.fst then l.map Prod.fst else l.map Prod.fst ++ [name] := by
  induction l with
  | nil => simp [put]
  | cons p rest ih =>
    by_cases h : p.1 = name
    · simp [put, h]
    · simp only [put, h, if_false, List.map_cons, ih, List.mem_cons]
      by_cases hm : name ∈ rest.map Prod.fst
      · simp [hm]
      · simp [hm, Ne.symm h]

theorem lookup_put (name : String) (value : α) (l : List (String × α)) (m : String) :
    (put name value l).lookup m = if m = name then some value else l.lookup m := by
  induction l with
  | nil =>
    by_cases h : m = name
    · simp [put, h]
    · simp [put, List.lookup_cons, h, beq_eq_false_iff_ne.2 h]
  | cons p rest ih =>
    obtain ⟨k, v⟩ := p
    by_cases hn : k = name
    · by_cases h : m = name
      · simp [put, hn, h]
      · simp [put, hn, List.lookup_cons, h, beq_eq_false_iff_ne.2 h]
    · by_cases hk : m = k
      · simp [put, hn, hk]
      · simp [put, hn, List.lookup_cons, beq_eq_false_iff_ne.2 hk, ih]

theorem nodup_put (name : String) (value : α) {l : List (String × α)}
    (h : (l.map Prod.fst).Nodup) : ((put name value l).map Prod.fst).Nodup := by
  rw [map_fst_put]
  split
  · exact h
  · rename_i hn
    exact List.nodup_append.2 ⟨h, by simp, by
      intro a ha b hb
      rw [List.mem_singleton] at hb
      subst hb
      exact fun e => hn (e ▸ ha)⟩

def insert (l : NamedList α) (name : String) (value : α) : NamedList α :=
  ⟨put name value l.entries, nodup_put name value l.distinct⟩

theorem names_insert (l : NamedList α) (name : String) (value : α) :
    (l.insert name value).names =
      if name ∈ l.names then l.names else l.names ++ [name] :=
  map_fst_put name value l.entries

theorem get?_insert (l : NamedList α) (name : String) (value : α) (m : String) :
    (l.insert name value).get? m = if m = name then some value else l.get? m :=
  lookup_put name value l.entries m

def ofList (pairs : List (String × α)) : NamedList α :=
  pairs.foldl (fun l (name, value) => l.insert name value) empty

/-- Puts a pair in front unless the name is in use. -/
def insertFirst (l : NamedList α) (name : String) (value : α) : NamedList α :=
  if h : name ∈ l.entries.map Prod.fst then l
  else ⟨(name, value) :: l.entries, List.nodup_cons.2 ⟨h, l.distinct⟩⟩

theorem insertFirst_insertFirst (l : NamedList α) (name : String) (v w : α) :
    (l.insertFirst name v).insertFirst name w = l.insertFirst name v := by
  by_cases h : name ∈ l.entries.map Prod.fst <;> simp [insertFirst, h]

end NamedList

end DocumentSchema

/-!
# Sets of names

A `NameSet` lists its names in ascending order, each of them once.
-/
namespace DocumentSchema

structure NameSet where
  names : List String
  ascending : names.Pairwise (· < ·)

namespace NameSet

@[ext] theorem ext {a b : NameSet} (h : a.names = b.names) : a = b := by
  cases a; cases b; cases h; rfl

def empty : NameSet := ⟨[], List.Pairwise.nil⟩

instance : Inhabited NameSet := ⟨empty⟩

def place (name : String) : List String → List String
  | [] => [name]
  | n :: rest =>
    if name = n then n :: rest
    else if name < n then name :: n :: rest
    else n :: place name rest

theorem mem_place {name m : String} {l : List String} :
    m ∈ place name l ↔ m = name ∨ m ∈ l := by
  induction l with
  | nil => simp [place]
  | cons n rest ih =>
    unfold place
    split
    · rename_i h; subst h; simp
    · split
      · simp
      · simp only [List.mem_cons, ih]
        exact or_left_comm

theorem pairwise_place (name : String) {l : List String} (h : l.Pairwise (· < ·)) :
    (place name l).Pairwise (· < ·) := by
  induction l with
  | nil => simp [place]
  | cons n rest ih =>
    have hn := List.pairwise_cons.1 h
    unfold place
    split
    · exact h
    · split
      · rename_i hlt
        refine List.pairwise_cons.2 ⟨?_, h⟩
        intro m hm
        rcases List.mem_cons.1 hm with rfl | hm
        · exact hlt
        · exact String.lt_trans hlt (hn.1 m hm)
      · rename_i hne hnlt
        refine List.pairwise_cons.2 ⟨?_, ih hn.2⟩
        intro m hm
        rcases mem_place.1 hm with hm | hm
        · subst hm
          exact Decidable.byContradiction fun hle =>
            hne (String.le_antisymm (String.not_lt.1 hle) (String.not_lt.1 hnlt))
        · exact hn.1 m hm

def insert (s : NameSet) (name : String) : NameSet :=
  ⟨place name s.names, pairwise_place name s.ascending⟩

def ofList (names : List String) : NameSet := names.foldl insert empty

def contains (s : NameSet) (name : String) : Bool := s.names.contains name

theorem mem_insert {s : NameSet} {name m : String} :
    m ∈ (s.insert name).names ↔ m = name ∨ m ∈ s.names :=
  mem_place

theorem mem_ofList {l : List String} {m : String} : m ∈ (ofList l).names ↔ m ∈ l := by
  have general (s : NameSet) : m ∈ (l.foldl insert s).names ↔ m ∈ s.names ∨ m ∈ l := by
    induction l generalizing s with
    | nil => simp
    | cons n rest ih => rw [List.foldl_cons, ih, mem_insert, List.mem_cons]; grind
  simpa [ofList, empty] using general empty

end NameSet

end DocumentSchema

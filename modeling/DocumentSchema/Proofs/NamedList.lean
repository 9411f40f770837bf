import DocumentSchema.NamedList
import DocumentSchema.NameSet
import Mathlib.Data.List.Induction
import Mathlib.Data.List.Nodup
import Mathlib.Tactic.Common

/-!
# Joining pairs that share a name

A list of named values that arises from pairs has each name at the place of its
first pair and with the value of its last one.
-/
namespace DocumentSchema

namespace NamedList

variable {α : Type}

/-- The list has the names of some pairs, each at its first place and with its last value. -/
structure Joins (l : NamedList α) (pairs : List (String × α)) : Prop where
  names_eq : l.names = (pairs.map Prod.fst).eraseDups
  get?_eq : ∀ name, l.get? name = pairs.reverse.lookup name

theorem ofList_concat (pairs : List (String × α)) (p : String × α) :
    ofList (pairs ++ [p]) = (ofList pairs).insert p.1 p.2 := by
  rw [ofList, List.foldl_append]
  rfl

theorem eraseDups_concat (names : List String) (n : String) :
    (names ++ [n]).eraseDups =
      if n ∈ names then names.eraseDups else names.eraseDups ++ [n] := by
  rw [List.eraseDups_append]
  by_cases h : n ∈ names <;> simp [List.removeAll, List.eraseDups_cons, h]

theorem joins_ofList (pairs : List (String × α)) : (ofList pairs).Joins pairs := by
  induction pairs using List.reverseRecOn with
  | nil => exact ⟨rfl, fun _ => rfl⟩
  | append_singleton pairs p ih =>
    obtain ⟨n, v⟩ := p
    rw [ofList_concat]
    constructor
    · rw [names_insert, List.map_append, List.map_singleton, eraseDups_concat, ih.names_eq]
      simp only [List.mem_eraseDups]
    · intro name
      rw [get?_insert, List.reverse_append, ih.get?_eq]
      by_cases h : name = n
      · simp [h]
      · simp [h, List.lookup_cons, beq_eq_false_iff_ne.mpr h]

theorem mem_names_ofList {pairs : List (String × α)} {name : String} :
    name ∈ (ofList pairs).names ↔ name ∈ pairs.map Prod.fst := by
  rw [(joins_ofList pairs).names_eq, List.mem_eraseDups]

theorem put_of_not_mem {name : String} {l : List (String × α)} (h : name ∉ l.map Prod.fst)
    (value : α) : put name value l = l ++ [(name, value)] := by
  induction l with
  | nil => rfl
  | cons p rest ih =>
    obtain ⟨n, v⟩ := p
    simp only [List.map_cons, List.mem_cons, not_or] at h
    rw [put, if_neg (Ne.symm h.1), ih h.2, List.cons_append]

theorem entries_insert_of_not_mem {l : NamedList α} {name : String} (h : name ∉ l.names)
    (value : α) : (l.insert name value).entries = l.entries ++ [(name, value)] :=
  put_of_not_mem h value

theorem ofList_entries (l : NamedList α) : ofList l.entries = l := by
  suffices ∀ pairs : List (String × α), (pairs.map Prod.fst).Nodup →
      (ofList pairs).entries = pairs from ext (this l.entries l.distinct)
  intro pairs hnodup
  induction pairs using List.reverseRecOn with
  | nil => rfl
  | append_singleton pairs p ih =>
    rw [List.map_append, List.map_singleton, List.nodup_append'] at hnodup
    have hfresh : p.1 ∉ (ofList pairs).names := fun hm =>
      hnodup.2.2 (mem_names_ofList.mp hm) (List.mem_singleton_self p.1)
    rw [ofList_concat, entries_insert_of_not_mem hfresh, ih hnodup.1]

theorem mem_put {name : String} {value : α} {l : List (String × α)} {p : String × α}
    (h : p ∈ put name value l) : p = (name, value) ∨ p ∈ l := by
  induction l with
  | nil => exact Or.inl (List.mem_singleton.mp h)
  | cons q rest ih =>
    unfold put at h
    split at h
    · exact (List.mem_cons.mp h).imp_right (List.mem_cons_of_mem q)
    · rcases List.mem_cons.mp h with rfl | h
      · exact Or.inr List.mem_cons_self
      · exact (ih h).imp_right (List.mem_cons_of_mem q)

theorem mem_of_mem_ofList {pairs : List (String × α)} {p : String × α}
    (h : p ∈ (ofList pairs).entries) : p ∈ pairs := by
  induction pairs using List.reverseRecOn with
  | nil => cases h
  | append_singleton pairs q ih =>
    rw [ofList_concat] at h
    rcases mem_put h with rfl | h
    · exact List.mem_append_right _ (List.mem_singleton_self _)
    · exact List.mem_append_left _ (ih h)

theorem lookup_reverse_eq_none {pairs : List (String × α)} {name : String}
    (h : name ∉ pairs.map Prod.fst) : pairs.reverse.lookup name = none := by
  refine List.lookup_eq_none_iff.mpr fun p hp => ?_
  have hne : name ≠ p.1 := by
    rintro rfl
    exact h (List.mem_map_of_mem (List.mem_reverse.mp hp))
  simpa using hne

/-- A pair counts when no pair with its name comes after it. -/
theorem lookup_reverse_append_cons {before after : List (String × α)} {name : String} (value : α)
    (h : name ∉ after.map Prod.fst) :
    (before ++ (name, value) :: after).reverse.lookup name = some value := by
  rw [List.reverse_append, List.reverse_cons, List.append_assoc, List.lookup_append,
    lookup_reverse_eq_none h]
  simp

theorem mem_insertFirst {l : NamedList α} {name : String} {value : α} {p : String × α}
    (h : p ∈ (l.insertFirst name value).entries) : p = (name, value) ∨ p ∈ l.entries := by
  unfold insertFirst at h
  split at h
  · exact Or.inr h
  · exact List.mem_cons.mp h

theorem entries_insertFirst (l : NamedList α) (name : String) (value : α) :
    (l.insertFirst name value).entries =
      if name ∈ l.names then l.entries else (name, value) :: l.entries := by
  unfold insertFirst names
  split <;> rfl

end NamedList

namespace NameSet

theorem eq_of_mem_iff {a b : NameSet} (h : ∀ name, name ∈ a.names ↔ name ∈ b.names) : a = b := by
  have hperm : a.names.Perm b.names :=
    (List.perm_ext_iff_of_nodup (a.ascending.imp String.ne_of_lt)
      (b.ascending.imp String.ne_of_lt)).mpr h
  have hanti (m n : String) (_ : m ∈ a.names) (_ : n ∈ b.names) (hmn : m < n) (hnm : n < m) :
      m = n := absurd (String.lt_trans hmn hnm) (String.lt_irrefl m)
  exact ext (hperm.eq_of_pairwise hanti a.ascending b.ascending)

theorem ofList_names (s : NameSet) : ofList s.names = s :=
  eq_of_mem_iff fun _ => mem_ofList

theorem ofList_concat (names : List String) (n : String) :
    ofList (names ++ [n]) = (ofList names).insert n := by
  rw [ofList, List.foldl_append]
  rfl

end NameSet

end DocumentSchema

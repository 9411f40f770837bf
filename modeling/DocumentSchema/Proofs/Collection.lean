import DocumentSchema.Collection
import DocumentSchema.Proofs.Filter.FieldTests
import Mathlib.Data.List.Nodup

/-!
# Filters that share a collection

What a filter finds keeps the order in which documents were inserted. Two
filters of which one accepts exactly the objects that the other one rejects take
the objects of a collection apart: merged again, what they find are its objects.
-/
namespace DocumentSchema

/-- A list that is merged from two others, each of which keeps its order. -/
inductive Merges {α : Type} : List α → List α → List α → Prop
  | nil : Merges [] [] []
  | left (a : α) {xs ys zs : List α} (h : Merges xs ys zs) : Merges (a :: xs) ys (a :: zs)
  | right (a : α) {xs ys zs : List α} (h : Merges xs ys zs) : Merges xs (a :: ys) (a :: zs)

namespace Merges

variable {α β : Type} {xs ys zs : List α}

theorem map (f : α → β) (h : Merges xs ys zs) : Merges (xs.map f) (ys.map f) (zs.map f) := by
  induction h with
  | nil => exact nil
  | left a _ ih => exact left (f a) ih
  | right a _ ih => exact right (f a) ih

theorem mem_iff (h : Merges xs ys zs) {a : α} : a ∈ zs ↔ a ∈ xs ∨ a ∈ ys := by
  induction h with
  | nil => simp
  | left b _ ih => rw [List.mem_cons, List.mem_cons, ih, or_assoc]
  | right b _ ih => rw [List.mem_cons, List.mem_cons, ih, or_left_comm]

theorem disjoint (h : Merges xs ys zs) (hz : zs.Nodup) : xs.Disjoint ys := by
  induction h with
  | nil => exact List.disjoint_nil_left _
  | left a h ih =>
    obtain ⟨ha, hz⟩ := List.nodup_cons.mp hz
    have hy := mt (Or.inr : _ → _ ∨ _) (mt h.mem_iff.mpr ha)
    exact List.disjoint_cons_left.mpr ⟨hy, ih hz⟩
  | right a h ih =>
    obtain ⟨ha, hz⟩ := List.nodup_cons.mp hz
    have hx := mt (Or.inl : _ → _ ∨ _) (mt h.mem_iff.mpr ha)
    exact List.disjoint_cons_right.mpr ⟨hx, ih hz⟩

/-- What passes a test, and of the rest what passes a weaker one, are merged to what passes the
weaker one. -/
theorem filter {p q r : α → Bool} (hp : ∀ a, p a = true → r a = true)
    (hq : ∀ a, q a = (r a && !p a)) (l : List α) :
    Merges (l.filter p) (l.filter q) (l.filter r) := by
  induction l with
  | nil => exact nil
  | cons a l ih =>
    rw [List.filter_cons, List.filter_cons, List.filter_cons, hq]
    cases ha : p a with
    | true =>
      rw [hp a ha]
      exact left a ih
    | false =>
      cases r a with
      | true => exact right a ih
      | false => exact ih

end Merges

namespace Collection

def ofInserts (entity : String) (documents : List Value) : Collection :=
  documents.foldl insert (empty entity)

theorem documents_ofInserts (entity : String) (documents : List Value) :
    (ofInserts entity documents).documents = documents := by
  have general (s : Collection) :
      (documents.foldl insert s).documents = s.documents ++ documents := by
    induction documents generalizing s with
    | nil => rw [List.foldl_nil, List.append_nil]
    | cons d rest ih => rw [List.foldl_cons, ih, insert, List.append_assoc, List.singleton_append]
  exact general (empty entity)

theorem count_eq_length_find (s : Collection) (m : Matcher) : s.count m = (s.find m).length :=
  List.countP_eq_length_filter

def objectIndices (s : Collection) : List Nat :=
  (s.documents.zipIdx.filter fun d => d.1.isObject).map Prod.snd

theorem nodup_objectIndices (s : Collection) : s.objectIndices.Nodup := by
  have hplaces : (s.documents.zipIdx.map Prod.snd).Nodup := by
    rw [List.zipIdx_map_snd]
    exact List.nodup_range'
  exact hplaces.sublist (List.filter_sublist.map Prod.snd)

/-- Two filters share the objects of a collection between them. No place is found by both, and what
they find, merged in the order of insertion, is all the objects and nothing else. -/
structure SharedBy (s : Collection) (m n : Matcher) : Prop where
  indices : Merges (s.findIndices m) (s.findIndices n) s.objectIndices
  disjoint : (s.findIndices m).Disjoint (s.findIndices n)
  documents : Merges (s.find m) (s.find n) (s.documents.filter Value.isObject)
  count_left : s.count m = (s.find m).length
  count_right : s.count n = (s.find n).length

/-- A filter that accepts the objects that another one rejects shares every collection with it. -/
theorem sharedBy_of_complement {m n : Matcher}
    (hm : ∀ d, m.accepts d = true → d.isObject = true)
    (hn : ∀ d, n.accepts d = (d.isObject && !m.accepts d)) (s : Collection) : s.SharedBy m n := by
  have hindices : Merges (s.findIndices m) (s.findIndices n) s.objectIndices := by
    unfold findIndices objectIndices
    apply Merges.map
    apply Merges.filter
    · exact fun d => hm d.1
    · exact fun d => hn d.1
  refine ⟨hindices, hindices.disjoint s.nodup_objectIndices, ?_, ?_, ?_⟩
  · exact Merges.filter hm hn s.documents
  · exact s.count_eq_length_find m
  · exact s.count_eq_length_find n

end Collection

end DocumentSchema

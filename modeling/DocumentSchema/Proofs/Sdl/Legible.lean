import DocumentSchema.Proofs.Schema.TypeNames

/-!
# Legible texts

A way to write things is legible when what is written can be told from the text,
also from the beginning of a longer one. Where a thing ends may have to be seen
from what follows it.
-/
namespace DocumentSchema

/-- Things in `P` are told apart by their texts, even before rests in `Q`, and so are the rests. -/
def Legible {α : Type} (P : α → Prop) (Q : List Char → Prop) (write : α → List Char) : Prop :=
  ∀ ⦃a b⦄, P a → P b → ∀ ⦃s t⦄, Q s → Q t → write a ++ s = write b ++ t → a = b ∧ s = t

def Begins (kind : Char → Prop) (s : List Char) : Prop := ∃ c rest, s = c :: rest ∧ kind c

section Intercalate

variable {α : Type} (sep : List α)

theorem intercalate_cons (x : List α) (xs : List (List α)) :
    sep.intercalate (x :: xs) = x ++ xs.flatMap fun y => sep ++ y := by
  induction xs generalizing x with
  | nil => simp
  | cons y ys ih =>
    rw [List.intercalate_cons_cons, ih, List.flatMap_cons, List.append_assoc, List.append_assoc]

theorem intercalate_append {xs : List (List α)} (h : xs ≠ []) :
    sep.intercalate xs ++ sep = xs.flatMap fun x => x ++ sep := by
  induction xs with
  | nil => exact (h rfl).elim
  | cons x xs ih =>
    cases xs with
    | nil => simp
    | cons y ys =>
      rw [List.intercalate_cons_cons, List.append_assoc, ih (List.cons_ne_nil y ys)]
      simp

end Intercalate

section Lists

variable {α : Type} {P : α → Prop} {Q R : List Char → Prop} {write : α → List Char}

/-- Things one after another are legible when each of them is before the others, and when no thing
can be taken for what follows the last one. -/
theorem Legible.flatMap (h : Legible P R write) (hend : ∀ s, Q s → R s)
    (hitem : ∀ a, P a → ∀ s, R (write a ++ s) ∧ ¬ Q (write a ++ s)) :
    Legible (fun as => ∀ a ∈ as, P a) Q (List.flatMap write) := by
  have hrest {as : List α} (ha : ∀ a ∈ as, P a) {s : List Char} (hs : Q s) :
      R (as.flatMap write ++ s) := by
    cases as with
    | nil => exact hend s hs
    | cons a as =>
      rw [List.flatMap_cons, List.append_assoc]
      exact (hitem a (ha a List.mem_cons_self) _).1
  intro as bs ha hb s t hs ht hst
  -- Where one list has ended, the other one would begin with what cannot follow.
  induction as generalizing bs with
  | nil =>
    cases bs with
    | nil => exact ⟨rfl, hst⟩
    | cons b bs =>
      rw [List.flatMap_nil, List.nil_append, List.flatMap_cons, List.append_assoc] at hst
      exact ((hitem b (hb b List.mem_cons_self) _).2 (hst ▸ hs)).elim
  | cons a as ih =>
    obtain ⟨ha, has⟩ := List.forall_mem_cons.mp ha
    cases bs with
    | nil =>
      rw [List.flatMap_nil, List.nil_append, List.flatMap_cons, List.append_assoc] at hst
      exact ((hitem a ha _).2 (hst ▸ ht)).elim
    | cons b bs =>
      obtain ⟨hb, hbs⟩ := List.forall_mem_cons.mp hb
      simp only [List.flatMap_cons, List.append_assoc] at hst
      obtain ⟨rfl, htail⟩ := h ha hb (hrest has hs) (hrest hbs ht) hst
      obtain ⟨rfl, hend⟩ := ih has hbs htail
      exact ⟨rfl, hend⟩

end Lists

/-- The characters between names and types. -/
def isSeparator (c : Char) : Bool := [' ', '\n', ':', ',', '(', ')'].contains c

/-- A text without separators, as names and types are. -/
def IsToken (s : String) : Prop := ∀ c ∈ s.toList, isSeparator c = false

theorem isToken_of_chars {s : String}
    (h : ∀ c ∈ s.toList, isNamePart c = true ∨ c = '[' ∨ c = ']' ∨ c = '!') : IsToken s := by
  intro c hc
  rw [Bool.eq_false_iff]
  intro hsep
  have hchar := h c hc
  simp only [isSeparator, List.contains_iff_mem, List.mem_cons, List.not_mem_nil, or_false] at hsep
  rcases hsep with rfl | rfl | rfl | rfl | rfl | rfl <;> revert hchar <;> decide

theorem isToken_of_isWord {s : String} (h : IsWord s) : IsToken s :=
  isToken_of_chars fun c hc => .inl (h c hc)

theorem isToken_of_bareName {type : String} (h : IsWord (bareName type)) : IsToken type := by
  refine isToken_of_chars fun c hc => ?_
  rw [← List.takeWhile_append_dropWhile (p := (· = '[')) (l := type.toList), List.mem_append] at hc
  rcases hc with hc | hc
  · exact .inr (.inl (by simpa using List.mem_takeWhile_imp hc))
  · rw [← List.mem_reverse, ← List.takeWhile_append_dropWhile (p := (· = ']'))
      (l := List.reverse _), List.mem_append] at hc
    rcases hc with hc | hc
    · exact .inr (.inr (.inl (by simpa using List.mem_takeWhile_imp hc)))
    · refine .inl (h c ?_)
      rw [bareName, String.toList_ofList, List.rdropWhile, List.mem_reverse]
      exact hc

theorem legible_token : Legible IsToken (Begins (isSeparator · = true)) String.toList := by
  have htoken {a : String} (ha : IsToken a) {c : Char} (hc : isSeparator c = true)
      (s : List Char) : (a.toList ++ c :: s).takeWhile (!isSeparator ·) = a.toList := by
    rw [List.takeWhile_append_of_pos (by simpa [IsToken] using ha),
      List.takeWhile_cons_of_neg (by simp [hc]), List.append_nil]
  rintro a b ha hb _ _ ⟨c, s, rfl, hc⟩ ⟨d, t, rfl, hd⟩ h
  have hab : a.toList = b.toList := by
    rw [← htoken ha hc s, h, htoken hb hd t]
  rw [hab] at h
  exact ⟨String.toList_injective hab, List.append_cancel_left h⟩

end DocumentSchema

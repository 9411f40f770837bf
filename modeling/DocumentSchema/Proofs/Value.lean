import DocumentSchema.Filter.Matcher
import Mathlib.Data.List.Forall2

/-!
# Values that are the same

Structural equality takes the two zeros for one number and is equality
otherwise. Both it and the equality of stored and expected values ask for one
shape, and for numbers that are related, inside objects perhaps in another way
than outside. Values that are equal compare alike with everything, and a test of
a stored value cannot tell them apart.
-/
namespace DocumentSchema

section Pairwise

variable {α : Type} {xs ys : List α}

theorem forall₂_iff_of_mem {r r' : α → α → Prop} (h : ∀ x ∈ xs, ∀ y, r x y ↔ r' x y) :
    List.Forall₂ r xs ys ↔ List.Forall₂ r' xs ys := by
  induction xs generalizing ys with
  | nil => cases ys <;> simp
  | cons x xs ih =>
    obtain ⟨hx, hxs⟩ := List.forall_mem_cons.mp h
    cases ys with
    | nil => simp
    | cons y ys => rw [List.forall₂_cons, List.forall₂_cons, hx, ih hxs]

theorem forall₂_iff_of_forall₂ {r r' s : α → α → Prop} (hs : List.Forall₂ s xs ys)
    (h : ∀ x ∈ xs, ∀ y, s x y → (r x y ↔ r' x y)) :
    List.Forall₂ r xs ys ↔ List.Forall₂ r' xs ys := by
  induction hs with
  | nil => simp
  | cons hxy _ ih =>
    obtain ⟨hx, hxs⟩ := List.forall_mem_cons.mp h
    rw [List.forall₂_cons, List.forall₂_cons, hx _ hxy, ih hxs]

theorem all₂_congr_of_forall₂ {R : α → α → Prop} {r : α → α → Bool} {cs : List α}
    (h : List.Forall₂ R xs ys) (hr : ∀ x ∈ xs, ∀ y, R x y → ∀ c ∈ cs, r x c = r y c) :
    xs.all₂ r cs = ys.all₂ r cs := by
  induction h generalizing cs with
  | nil => rfl
  | cons hxy _ ih =>
    obtain ⟨hx, hxs⟩ := List.forall_mem_cons.mp hr
    cases cs with
    | nil => rfl
    | cons c cs =>
      rw [List.all₂, List.all₂, hx _ hxy c List.mem_cons_self,
        ih fun x hx y hxy c hc => hxs x hx y hxy c (List.mem_cons_of_mem _ hc)]

theorem all₂_congr {s r : α → α → Bool} (hr : ∀ x ∈ xs, ∀ y, s x y = true → ∀ c, r x c = r y c)
    (h : xs.all₂ s ys = true) (cs : List α) : xs.all₂ r cs = ys.all₂ r cs := by
  rw [List.all₂_eq_true] at h
  exact all₂_congr_of_forall₂ h fun x hx y hxy c _ => hr x hx y hxy c

theorem any_congr_of_forall₂ {r : α → α → Prop} {p q : α → Bool} (hp : ∀ x y, r x y → p x = q y)
    (h : List.Forall₂ r xs ys) : xs.any p = ys.any q := by
  induction h with
  | nil => rfl
  | cons hxy _ ih => rw [List.any_cons, List.any_cons, hp _ _ hxy, ih]

end Pairwise

namespace Number

variable {a b : Number}

theorem key_of_same (h : a.same b = true) : a.toDouble.key = b.toDouble.key := by
  cases a <;> cases b <;> simp_all [same, toDouble]

theorem same_congr (h : a.same b = true) (c : Number) : a.same c = b.same c := by
  cases a <;> cases b <;> cases c <;> simp_all [same]

end Number

namespace Value

/-- An induction over a value and everything inside it. -/
theorem nestedInduction {motive : Value → Prop} (null : motive .null)
    (bool : ∀ b, motive (.bool b)) (number : ∀ n, motive (.number n))
    (string : ∀ s, motive (.string s))
    (array : ∀ items, (∀ v ∈ items, motive v) → motive (.array items))
    (object : ∀ members, (∀ m ∈ members, motive m.2) → motive (.object members)) :
    ∀ v, motive v
  | .null => null
  | .bool b => bool b
  | .number n => number n
  | .string s => string s
  | .array items => array items fun v hv =>
    have := List.sizeOf_lt_of_mem hv
    nestedInduction null bool number string array object v
  | .object members => object members fun m hm =>
    have := List.sizeOf_lt_of_mem hm
    nestedInduction null bool number string array object m.2
termination_by v => sizeOf v
decreasing_by
  · simp; omega
  · obtain ⟨k, v⟩ := m
    simp at this ⊢
    omega

/-- An induction whose hypotheses are about the elements of arrays and the members of objects. -/
theorem insideInduction {motive : Value → Prop}
    (inside : ∀ v, (∀ items, v = .array items → ∀ i ∈ items, motive i) →
      (∀ members, v = .object members → ∀ m ∈ members, motive m.2) → motive v) (v : Value) :
    motive v := by
  induction v using nestedInduction with
  | null | bool | number | string => exact inside _ (by simp) (by simp)
  | array items ih =>
    refine inside _ (fun _ h => ?_) (by simp)
    cases h
    exact ih
  | object members ih =>
    refine inside _ (by simp) (fun _ h => ?_)
    cases h
    exact ih

attribute [local simp] same sameItems sameMembers equals equalItems

def sameMember (a b : String × Value) : Bool := a.1 = b.1 && a.2.same b.2

theorem sameItems_eq (xs ys : List Value) : sameItems xs ys = xs.all₂ same ys := by
  induction xs generalizing ys with
  | nil => cases ys <;> rfl
  | cons x xs ih => cases ys <;> simp [List.all₂, ih]

theorem sameMembers_eq (xs ys : List (String × Value)) :
    sameMembers xs ys = xs.all₂ sameMember ys := by
  induction xs generalizing ys with
  | nil => cases ys <;> rfl
  | cons x xs ih => cases ys <;> simp [List.all₂, sameMember, ih]

theorem equalItems_eq (date : Bool) (xs ys : List Value) :
    equalItems date xs ys = xs.all₂ (equals date) ys := by
  induction xs generalizing ys with
  | nil => cases ys <;> rfl
  | cons x xs ih => cases ys <;> simp [List.all₂, ih]

theorem same_refl (v : Value) : v.same v = true := by
  induction v using nestedInduction with
  | null => rfl
  | bool b => simp
  | number n => cases n <;> simp [Number.same]
  | string s => simp
  | array items ih =>
    rw [same, sameItems_eq, List.all₂_eq_true, List.forall₂_same]
    exact ih
  | object members ih =>
    rw [same, sameMembers_eq, List.all₂_eq_true, List.forall₂_same]
    intro m hm
    simp [sameMember, ih m hm]

theorem eq_of_same {v w : Value} (h : v.same w = true)
    (hv : (∃ b, v = .bool b) ∨ v = .null ∨ ∃ s, v = .string s) : v = w := by
  rcases hv with ⟨b, rfl⟩ | rfl | ⟨s, rfl⟩
  · cases w <;> simp at h
    rw [h]
  · cases w <;> simp at h
    rfl
  · cases w <;> simp at h
    rw [h]

theorem same_congr {v w : Value} (h : v.same w = true) (c : Value) : v.same c = w.same c := by
  induction v using nestedInduction generalizing w c with
  | null => rw [eq_of_same h (by simp)]
  | bool b => rw [eq_of_same h (by simp)]
  | string s => rw [eq_of_same h (by simp)]
  | number a =>
    cases w <;> simp only [same, Bool.false_eq_true] at h
    cases c <;> simp only [same, Number.same_congr h]
  | array xs ih =>
    cases w <;> simp only [same, Bool.false_eq_true] at h
    cases c <;> simp only [same]
    rw [sameItems_eq] at h ⊢
    rw [sameItems_eq]
    exact all₂_congr (fun x hx y hxy c => ih x hx hxy c) h _
  | object xs ih =>
    cases w <;> simp only [same, Bool.false_eq_true] at h
    cases c <;> simp only [same]
    rw [sameMembers_eq] at h ⊢
    rw [sameMembers_eq]
    refine all₂_congr (fun x hx y hxy c => ?_) h _
    obtain ⟨hn, hs⟩ := Bool.and_eq_true_iff.mp hxy
    rw [sameMember, sameMember, decide_eq_true_iff.mp hn, ih x hx hs]

mutual

/-- Values of one shape. Their numbers are related by `r`, and by `s` inside objects. -/
def Alike (r s : Number → Number → Prop) : Value → Value → Prop
  | .null, .null => True
  | .bool a, .bool b => a = b
  | .number a, .number b => r a b
  | .string a, .string b => a = b
  | .array xs, .array ys => AlikeItems r s xs ys
  | .object xs, .object ys => AlikeMembers s xs ys
  | _, _ => False

def AlikeItems (r s : Number → Number → Prop) : List Value → List Value → Prop
  | [], [] => True
  | x :: xs, y :: ys => x.Alike r s y ∧ AlikeItems r s xs ys
  | _, _ => False

def AlikeMembers (s : Number → Number → Prop) :
    List (String × Value) → List (String × Value) → Prop
  | [], [] => True
  | (k, x) :: xs, (l, y) :: ys => (k = l ∧ x.Alike s s y) ∧ AlikeMembers s xs ys
  | _, _ => False

end

attribute [local simp] Alike AlikeItems AlikeMembers

section Alike

variable {r s r' s' r₀ s₀ : Number → Number → Prop}

theorem alikeItems_iff {xs ys : List Value} :
    AlikeItems r s xs ys ↔ List.Forall₂ (Alike r s) xs ys := by
  induction xs generalizing ys with
  | nil => cases ys <;> simp
  | cons x xs ih => cases ys <;> simp [ih]

theorem alikeMembers_iff {xs ys : List (String × Value)} :
    AlikeMembers s xs ys ↔ List.Forall₂ (fun a b => a.1 = b.1 ∧ a.2.Alike s s b.2) xs ys := by
  induction xs generalizing ys with
  | nil => cases ys <;> simp
  | cons x xs ih => cases ys <;> simp [ih]

theorem alike_congr {v w : Value} (h : v.Alike r₀ s₀ w)
    (hr : ∀ a b, r₀ a b → (r a b ↔ r' a b)) (hs : ∀ a b, s₀ a b → (s a b ↔ s' a b)) :
    v.Alike r s w ↔ v.Alike r' s' w := by
  induction v using nestedInduction generalizing w r r' r₀ with
  | null | bool | string => cases w <;> simp at h ⊢
  | number a =>
    cases w <;> simp only [Alike] at h ⊢
    exact hr _ _ h
  | array xs ih =>
    cases w <;> simp only [Alike, alikeItems_iff] at h ⊢
    exact forall₂_iff_of_forall₂ h fun x hx y hxy => ih x hx hxy hr
  | object xs ih =>
    cases w <;> simp only [Alike, alikeMembers_iff] at h ⊢
    exact forall₂_iff_of_forall₂ h fun x hx y hxy => and_congr_right fun _ => ih x hx hxy.2 hs

theorem same_iff_alike {v w : Value} :
    v.same w = true ↔ v.Alike (fun a b => a.same b = true) (fun a b => a.same b = true) w := by
  induction v using nestedInduction generalizing w with
  | null | bool | string | number => cases w <;> simp [same]
  | array xs ih =>
    cases w <;> simp only [same, Alike, Bool.false_eq_true]
    rw [sameItems_eq, List.all₂_eq_true, alikeItems_iff]
    exact forall₂_iff_of_mem fun x hx y => ih x hx
  | object xs ih =>
    cases w <;> simp only [same, Alike, Bool.false_eq_true]
    rw [sameMembers_eq, List.all₂_eq_true, alikeMembers_iff]
    refine forall₂_iff_of_mem fun x hx y => ?_
    rw [sameMember, Bool.and_eq_true, decide_eq_true_iff, ih x hx]

/-- Equality relates the numbers outside objects as doubles and the other ones by kind as well. -/
theorem equals_iff_alike {v w : Value} :
    v.equals false w = true ↔
      v.Alike (fun a b => a.equals b = true) (fun a b => a.same b = true) w := by
  induction v using nestedInduction generalizing w with
  | null | bool | string | number => cases w <;> simp [equals, equalTexts, same]
  | array xs ih =>
    cases w <;> simp only [equals, same, Alike, Bool.false_eq_true]
    rw [equalItems_eq, List.all₂_eq_true, alikeItems_iff]
    exact forall₂_iff_of_mem fun x hx y => ih x hx
  | object xs ih =>
    cases w with
    | object ys =>
      have hsame := same_iff_alike (v := .object xs) (w := .object ys)
      simpa only [equals, Alike] using hsame
    | _ => simp [equals, same]

theorem isNull_of_alike {v w : Value} (h : v.Alike r s w) : v.isNull = w.isNull := by
  cases v <;> cases w <;> simp at h <;> rfl

end Alike

theorem equals_of_same {v w : Value} (h : v.same w = true) : v.equals false w = true := by
  rw [same_iff_alike] at h
  rw [equals_iff_alike]
  refine (alike_congr h (fun a b hab => ?_) fun _ _ _ => Iff.rfl).mpr h
  exact iff_of_true (decide_eq_true (Number.key_of_same hab)) hab

theorem eq_of_equals {v w : Value} (h : v.equals false w = true)
    (hv : (∃ b, v = .bool b) ∨ v = .null ∨ ∃ s, v = .string s) : v = w := by
  refine eq_of_same ?_ hv
  rcases hv with ⟨b, rfl⟩ | rfl | ⟨s, rfl⟩ <;> cases w <;> simp_all [equalTexts]

theorem equals_congr {v w : Value} (h : v.equals false w = true) (date : Bool)
    (c : Value) : v.equals date c = w.equals date c := by
  induction v using nestedInduction generalizing w c with
  | null => rw [eq_of_equals h (by simp)]
  | bool b => rw [eq_of_equals h (by simp)]
  | string s => rw [eq_of_equals h (by simp)]
  | number a =>
    cases w <;> simp only [equals, same, Bool.false_eq_true] at h
    have hkey := decide_eq_true_iff.mp h
    cases c <;> simp [Number.equals, hkey]
  | array xs ih =>
    cases w <;> simp only [equals, same, Bool.false_eq_true] at h
    rw [equalItems_eq] at h
    cases c <;> simp only [equals, same]
    rw [equalItems_eq, equalItems_eq]
    exact all₂_congr (fun x hx y hxy c => ih x hx hxy c) h _
  | object xs ih =>
    cases w <;> simp only [equals, same, Bool.false_eq_true] at h
    have hsame := same_congr (v := .object xs) (w := .object _) (by simpa only [same] using h) c
    cases c <;> simpa only [equals] using hsame

theorem anyValue_of_ne {accept : Value → Bool} {v : Value} (hv : ∀ items, v ≠ .array items) :
    v.anyValue accept = accept v := by
  cases v with
  | array items => exact (hv items rfl).elim
  | _ => rfl

/-- Related values are arrays together, with related elements, are the same texts, and are ordered
alike. -/
structure LooksAlike (R : Value → Value → Prop) : Prop where
  array : ∀ {v w}, R v w → ((∃ items, v = .array items) ↔ ∃ items, w = .array items)
  elements : ∀ {v w}, R v w → List.Forall₂ R v.elements w.elements
  string : ∀ {v w}, R v w → ∀ s, v = .string s ↔ w = .string s
  compare : ∀ {v w}, R v w → ∀ date c, v.compare date c = w.compare date c

namespace LooksAlike

variable {R : Value → Value → Prop} {v w : Value}

theorem anyValue (hR : LooksAlike R) {accept : Value → Bool}
    (ha : ∀ v w, R v w → accept v = accept w) (h : R v w) :
    v.anyValue accept = w.anyValue accept := by
  by_cases hv : ∃ items, v = .array items
  · obtain ⟨ys, rfl⟩ := (hR.array h).mp hv
    obtain ⟨xs, rfl⟩ := hv
    exact any_congr_of_forall₂ ha (hR.elements h)
  · have hw := mt (hR.array h).mpr hv
    rw [anyValue_of_ne (by simpa using hv), anyValue_of_ne (by simpa using hw), ha v w h]

theorem anyText (hR : LooksAlike R) {accept : String → Bool} (h : R v w) :
    v.anyText accept = w.anyText accept := by
  refine hR.anyValue (fun v w h => ?_) h
  by_cases hv : ∃ s, v = .string s
  · obtain ⟨s, rfl⟩ := hv
    rw [(hR.string h s).mp rfl]
  · have hw : ¬ ∃ s, w = .string s := by simpa only [hR.string h] using hv
    cases v <;> cases w <;> simp at hv hw ⊢

theorem bound (hR : LooksAlike R) (b : Bound) (h : R v w) : b.holds v = b.holds w := by
  rw [Bound.holds, Bound.holds, hR.compare h]

end LooksAlike

theorem looksAlike_alike {r s : Number → Number → Prop}
    (hr : ∀ a b, r a b → a.toDouble.key = b.toDouble.key) :
    LooksAlike (Alike r s) where
  array {v w} h := by cases v <;> cases w <;> simp at h ⊢
  elements {v w} h := by
    cases v <;> cases w <;> simp only [Alike] at h
    case array.array => rwa [alikeItems_iff] at h
    all_goals exact .nil
  string {v w} h t := by
    cases v <;> cases w <;> simp at h ⊢
    rw [h]
  compare {v w} h date c := by
    cases v <;> cases w <;> simp only [Alike] at h
    case number.number a b => cases c <;> simp only [Value.compare, hr a b h]
    case string.string => rw [h]
    all_goals rfl

end Value

def Test.expected : Test → List Value
  | equals expected _ _ => [expected]
  | oneOf candidates _ => candidates
  | containsElement element => [element]
  | containsAny candidates => candidates
  | _ => []

theorem Test.holds_congr_of {R : Value → Value → Prop} (hR : Value.LooksAlike R) {t : Test}
    (ht : ∀ v w, R v w → ∀ date, ∀ c ∈ t.expected, v.equals date c = w.equals date c)
    {v w : Value} (h : R v w) : t.holds v = t.holds w := by
  have hany {v w : Value} (h : R v w) (date : Bool) :
      (t.expected.any fun c => v.equals date c) = t.expected.any fun c => w.equals date c := by
    rw [Bool.eq_iff_iff, List.any_eq_true, List.any_eq_true]
    exact exists_congr fun c => and_congr_right fun hc => by rw [ht v w h date c hc]
  cases t with
  | equals expected date negated => rw [holds, holds, ht v w h date _ List.mem_cons_self]
  | oneOf candidates date => exact hany h date
  | text mode needle => exact hR.anyText h
  | pattern p => exact hR.anyText h
  | containsElement element =>
    exact any_congr_of_forall₂ (fun v w hvw => ht v w hvw false _ List.mem_cons_self)
      (hR.elements h)
  | containsAny candidates =>
    exact any_congr_of_forall₂ (fun v w hvw => hany hvw false) (hR.elements h)
  | compare bound => exact hR.anyValue (fun v w hvw => hR.bound bound hvw) h
  | elementMatch bounds =>
    refine any_congr_of_forall₂ (fun v w hvw => ?_) (hR.elements h)
    simp only [hR.bound _ hvw]
  | count size =>
    by_cases hv : ∃ items, v = .array items
    · obtain ⟨ys, rfl⟩ := (hR.array h).mp hv
      obtain ⟨xs, rfl⟩ := hv
      have hlength : xs.length = ys.length := (hR.elements h).length_eq
      rw [holds, holds, hlength]
    · have hw := mt (hR.array h).mpr hv
      cases v <;> cases w <;> simp [holds] at hv hw ⊢

/-- No test tells equal values apart. -/
theorem Test.holds_of_equals (t : Test) {v w : Value} (h : v.equals false w = true) :
    t.holds v = t.holds w := by
  refine holds_congr_of (R := fun v w => v.equals false w = true) ?_
    (fun v w h date c _ => Value.equals_congr h date c) h
  simp only [Value.equals_iff_alike]
  exact Value.looksAlike_alike fun a b hab => decide_eq_true_iff.mp hab

/-- No test tells values that are the same apart. -/
theorem Test.holds_congr (t : Test) {v w : Value} (h : v.same w = true) : t.holds v = t.holds w :=
  t.holds_of_equals (Value.equals_of_same h)

end DocumentSchema

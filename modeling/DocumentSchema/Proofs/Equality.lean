import DocumentSchema.Proofs.Value
import Mathlib.Order.Lattice

/-!
# Equality as an equivalence

The equality of stored and expected values is an equivalence, and equal values
are ordered alike. Nothing of this depends on which texts are dates: it holds
for every way to read some texts as points of a linear order, so equality and
order are stated here for any such reading, of which `Instant.parse` is one.
-/
namespace DocumentSchema

instance : LinearOrder Instant :=
  LinearOrder.lift' Instant.nanoseconds fun s t h => by cases s; cases t; cases h; rfl

theorem Instant.compare_eq (s t : Instant) :
    compare s t = compareOfLessAndEq s.nanoseconds t.nanoseconds := by
  have hlt : s < t ↔ s.nanoseconds < t.nanoseconds := Iff.rfl
  have heq : s = t ↔ s.nanoseconds = t.nanoseconds := by
    cases s
    cases t
    simp
  rw [LinearOrder.compare_eq_compareOfLessAndEq]
  simp only [compareOfLessAndEq, hlt, heq]

namespace Value

section Reading

variable {τ : Type} [LinearOrder τ] (parse : String → Option τ) (date : Bool)

/-- Equality of texts. In a date field those that are read as dates are compared as such. -/
def equalTextsBy (a b : String) : Bool :=
  if date then
    match parse a, parse b with
    | some s, some t => s = t
    | _, _ => a = b
  else a = b

mutual

def equalsBy : Value → Value → Bool
  | .number a, .number b => a.equals b
  | .string a, .string b => equalTextsBy parse date a b
  | .array xs, .array ys => equalItemsBy xs ys
  | a, b => a.same b

def equalItemsBy : List Value → List Value → Bool
  | [], [] => true
  | x :: xs, y :: ys => equalsBy x y && equalItemsBy xs ys
  | _, _ => false

end

/-- The order of texts. In a date field only those that are read as dates are ordered. -/
def compareTextsBy (a b : String) : Option Ordering :=
  if date then
    match parse a, parse b with
    | some s, some t => some (Ord.compare s t)
    | _, _ => none
  else some (compareOfLessAndEq a b)

def compareBy : Value → Value → Option Ordering
  | .number a, .number b => some (compareOfLessAndEq a.toDouble.key b.toDouble.key)
  | .string a, .string b => compareTextsBy parse date a b
  | _, _ => none

/-- What a text is compared by: the date that it is read as in a date field, or the text itself. -/
def textKey (s : String) : τ ⊕ String :=
  if date then
    match parse s with
    | some t => .inl t
    | none => .inr s
  else .inr s

variable {parse date}

attribute [local simp] same equalsBy equalItemsBy

theorem equalItemsBy_eq (xs ys : List Value) :
    equalItemsBy parse date xs ys = xs.all₂ (equalsBy parse date) ys := by
  induction xs generalizing ys with
  | nil => cases ys <;> rfl
  | cons x xs ih => cases ys <;> simp [List.all₂, ih]

/-- A text that is read as a date never equals one that is not, since equal texts are read alike. -/
theorem equalTextsBy_iff {a b : String} :
    equalTextsBy parse date a b = true ↔ textKey parse date a = textKey parse date b := by
  cases date with
  | false => simp [equalTextsBy, textKey]
  | true =>
    have hread : parse a ≠ parse b → a ≠ b := mt (congrArg parse)
    cases ha : parse a <;> cases hb : parse b <;> rw [ha, hb] at hread
    case none.none | some.some => simp [equalTextsBy, textKey, ha, hb]
    case none.some | some.none => simp [equalTextsBy, textKey, ha, hb, hread nofun]

theorem equalsBy_refl (v : Value) : equalsBy parse date v v = true := by
  induction v using nestedInduction with
  | number n => simp [Number.equals]
  | string s => rw [equalsBy, equalTextsBy_iff]
  | array items ih =>
    rw [equalsBy, equalItemsBy_eq, List.all₂_eq_true, List.forall₂_same]
    exact ih
  | null | bool b | object members => exact same_refl _

theorem equalsBy_congr {v w : Value} (h : equalsBy parse date v w = true) (c : Value) :
    equalsBy parse date v c = equalsBy parse date w c := by
  induction v using nestedInduction generalizing w c with
  | null =>
    cases w <;> simp only [equalsBy, same, Bool.false_eq_true] at h
    rfl
  | bool b =>
    cases w <;> simp only [equalsBy, same, Bool.false_eq_true] at h
    rw [decide_eq_true_iff.mp h]
  | string s =>
    cases w <;> simp only [equalsBy, same, Bool.false_eq_true] at h
    -- Equal texts are read alike, and so are compared by one key.
    have hkey := equalTextsBy_iff.mp h
    cases c <;> simp only [equalsBy, same]
    rw [Bool.eq_iff_iff, equalTextsBy_iff, equalTextsBy_iff, hkey]
  | number a =>
    cases w <;> simp only [equalsBy, same, Bool.false_eq_true] at h
    have hkey := decide_eq_true_iff.mp h
    cases c <;> simp [Number.equals, hkey]
  | array xs ih =>
    cases w <;> simp only [equalsBy, same, Bool.false_eq_true] at h
    rw [equalItemsBy_eq] at h
    cases c <;> simp only [equalsBy, same]
    rw [equalItemsBy_eq, equalItemsBy_eq]
    exact all₂_congr (fun x hx y hxy c => ih x hx hxy c) h _
  | object xs ih =>
    cases w <;> simp only [equalsBy, same, Bool.false_eq_true] at h
    have hsame := same_congr (v := .object xs) (w := .object _) (by simpa only [same] using h) c
    cases c <;> simpa only [equalsBy] using hsame

theorem compareTextsBy_congr {a b : String} (h : textKey parse date a = textKey parse date b)
    (c : String) : compareTextsBy parse date a c = compareTextsBy parse date b c := by
  cases date with
  | false => rw [Sum.inr.inj h]
  | true =>
    cases ha : parse a <;> cases hb : parse b <;> simp [textKey, ha, hb] at h
    · rw [h]
    · simp [compareTextsBy, ha, hb, h]

theorem compareTextsBy_eq_eq_iff {a b : String} (ha : (parse a).isSome = true)
    (hb : (parse b).isSome = true) :
    compareTextsBy parse true a b = some .eq ↔ equalTextsBy parse true a b = true := by
  obtain ⟨s, hs⟩ := Option.isSome_iff_exists.mp ha
  obtain ⟨t, ht⟩ := Option.isSome_iff_exists.mp hb
  simp [compareTextsBy, equalTextsBy, hs, ht]

theorem compareBy_congr {v w : Value} (h : equalsBy parse date v w = true) (c : Value) :
    compareBy parse date v c = compareBy parse date w c := by
  cases v <;> cases w <;> simp only [equalsBy, same, Bool.false_eq_true] at h
  case number.number a b =>
    have hkey := decide_eq_true_iff.mp h
    cases c <;> simp only [compareBy, hkey]
  case string.string a b =>
    cases c with
    | string t => exact compareTextsBy_congr (equalTextsBy_iff.mp h) t
    | _ => rfl
  all_goals rfl

/-- An equality is an equivalence, equal values are ordered alike, and numbers, or texts of a date
field that are read as dates, are equal exactly when neither of them comes first. -/
structure Coherent (parse : String → Option τ) (date : Bool) (equals : Value → Value → Bool)
    (compare : Value → Value → Option Ordering) : Prop where
  equivalence : Equivalence fun v w => equals v w = true
  compare_congr : ∀ v w, equals v w = true → ∀ c, compare v c = compare w c
  numbers : ∀ a b, compare (.number a) (.number b) = some .eq ↔
    equals (.number a) (.number b) = true
  dates : date = true → ∀ a b, (parse a).isSome = true → (parse b).isSome = true →
    (compare (.string a) (.string b) = some .eq ↔ equals (.string a) (.string b) = true)

theorem coherent_equalsBy (parse : String → Option τ) (date : Bool) :
    Coherent parse date (equalsBy parse date) (compareBy parse date) where
  equivalence := by
    refine ⟨equalsBy_refl, fun {v w} h => ?_, fun {v w x} h h' => ?_⟩
    · rw [← equalsBy_congr h]
      exact equalsBy_refl v
    · rw [equalsBy_congr h]
      exact h'
  compare_congr _ _ h := compareBy_congr h
  numbers a b := by
    simp [compareBy, equalsBy, Number.equals, compareOfLessAndEq_eq_eq le_refl not_le]
  dates hdate a b ha hb := by
    subst hdate
    exact compareTextsBy_eq_eq_iff ha hb

end Reading

theorem equalTexts_eq (date : Bool) (a b : String) :
    equalTexts date a b = equalTextsBy Instant.parse date a b := by
  unfold equalTexts equalTextsBy
  cases Instant.parse a <;> cases Instant.parse b <;> cases date <;> simp

theorem equals_eq (date : Bool) : equals date = equalsBy Instant.parse date := by
  funext v w
  induction v using nestedInduction generalizing w with
  | string a =>
    cases w with
    | string b => exact equalTexts_eq date a b
    | _ => rfl
  | array xs ih =>
    cases w with
    | array ys =>
      rw [equals, equalsBy, equalItems_eq, equalItemsBy_eq, Bool.eq_iff_iff, List.all₂_eq_true,
        List.all₂_eq_true]
      exact forall₂_iff_of_mem fun x hx y => by rw [ih x hx y]
    | _ => rfl
  | _ => cases w <;> rfl

theorem equals_refl (date : Bool) (v : Value) : v.equals date v = true := by
  rw [equals_eq]
  exact equalsBy_refl v

theorem compare_eq (date : Bool) : compare date = compareBy Instant.parse date := by
  funext v w
  cases v with
  | string a =>
    cases w with
    | string b =>
      rw [compare, compareBy, compareTextsBy]
      simp only [Instant.compare_eq]
      cases Instant.parse a <;> cases Instant.parse b <;> rfl
    | _ => rfl
  | _ => cases w <;> rfl

/-- Equality is an equivalence that the order respects, with dates and without, whichever texts are
read as dates and whatever they are read as; the equality and order of stored values are those of
the reading of instants. -/
theorem equality_is_equivalence (date : Bool) :
    (∀ (τ : Type) [LinearOrder τ] (parse : String → Option τ),
      Coherent parse date (equalsBy parse date) (compareBy parse date)) ∧
    (equals date = equalsBy Instant.parse date ∧ compare date = compareBy Instant.parse date) ∧
    Coherent Instant.parse date (equals date) (compare date) := by
  refine ⟨fun τ _ parse => coherent_equalsBy parse date, ⟨equals_eq date, compare_eq date⟩, ?_⟩
  rw [equals_eq, compare_eq]
  exact coherent_equalsBy Instant.parse date

end Value

end DocumentSchema

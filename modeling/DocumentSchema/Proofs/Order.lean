import DocumentSchema.Proofs.Number

/-!
# The order of a field

Where a field has an order, every value that it is asked for has a place in it:
numbers stand where their doubles do, and texts of a date field where their
instants do. Comparing with such a value is comparing places, and what has no
place compares with nothing.
-/
namespace DocumentSchema

namespace Comparison

/-- What a comparison asks of two places. -/
def relates : Comparison → Int → Int → Prop
  | lt, a, b => a < b
  | lte, a, b => a ≤ b
  | gt, a, b => b < a
  | gte, a, b => b ≤ a

theorem accepts_iff_relates (o : Comparison) (a b : Int) :
    o.accepts (compareOfLessAndEq a b) = true ↔ o.relates a b := by
  unfold compareOfLessAndEq
  cases o <;> split_ifs <;> simp [accepts, relates] <;> omega

end Comparison

namespace Value

/-- The place of a value in the order of a field. A number is placed by the double that it denotes,
a text of a date field by its instant. -/
def rank? (date : Bool) : Value → Option Int
  | .number n => if date then none else some n.toDouble.key
  | .string s => if date then (Instant.parse s).map Instant.nanoseconds else none
  | _ => none

/-- A value stands at or before another one in the order of a field. -/
def AtMost (date : Bool) (v w : Value) : Prop :=
  ∃ r s, v.rank? date = some r ∧ w.rank? date = some s ∧ r ≤ s

theorem atMost_of_value_le {a b : Number} (h : a.value ≤ b.value) :
    AtMost false (.number a) (.number b) :=
  ⟨_, _, rfl, rfl, Number.key_le_of_value_le h⟩

section Rank

variable {date : Bool} {v : Value} {r : Int}

theorem rank?_cases (h : v.rank? date = some r) :
    (date = false ∧ ∃ n : Number, v = .number n ∧ n.toDouble.key = r) ∨
      date = true ∧ ∃ s t, v = .string s ∧ Instant.parse s = some t ∧ t.nanoseconds = r := by
  cases v with
  | number n =>
    cases date with
    | false => exact .inl ⟨rfl, n, rfl, Option.some.inj h⟩
    | true => cases h
  | string s =>
    cases date with
    | false => cases h
    | true =>
      obtain ⟨t, ht, hr⟩ := Option.map_eq_some_iff.mp h
      exact .inr ⟨rfl, s, t, rfl, ht, hr⟩
  | _ => cases h

theorem not_isNull_of_rank? (h : v.rank? date = some r) : v.isNull = false := by
  cases v with
  | null => cases h
  | _ => rfl

/-- What is compared with a value that has a place is compared by places. -/
theorem compare_of_rank? (h : v.rank? date = some r) (x : Value) :
    compare date x v = (x.rank? date).map fun s => compareOfLessAndEq s r := by
  rcases rank?_cases h with ⟨rfl, n, rfl, rfl⟩ | ⟨rfl, s, t, rfl, ht, rfl⟩
  · cases x <;> rfl
  · cases x with
    | string a => cases ha : Instant.parse a <;> simp [compare, rank?, ha, ht]
    | _ => rfl

theorem equals_iff_rank? (h : v.rank? date = some r) (x : Value) :
    x.equals date v = true ↔ x.rank? date = some r := by
  rcases rank?_cases h with ⟨rfl, n, rfl, rfl⟩ | ⟨rfl, s, t, rfl, ht, rfl⟩
  · cases x <;> simp [equals, same, rank?, Number.equals]
  · cases x with
    | string a =>
      cases ha : Instant.parse a with
      | none =>
        -- A text that denotes no instant is not the text of the value.
        have hne : a ≠ s := by
          rintro rfl
          rw [ha] at ht
          cases ht
        simp [equals, equalTexts, rank?, ha, hne]
      | some u =>
        have hinstant : u = t ↔ u.nanoseconds = t.nanoseconds := by
          cases u
          cases t
          simp
        simp [equals, equalTexts, rank?, ha, ht, hinstant]
    | _ => simp [equals, same, rank?]

end Rank

end Value

theorem Bound.holds_iff {o : Comparison} {v : Value} {date : Bool} {r : Int}
    (h : v.rank? date = some r) (x : Value) :
    (⟨o, v, date⟩ : Bound).holds x = true ↔ ∃ s, x.rank? date = some s ∧ o.relates s r := by
  rw [holds, Value.compare_of_rank? h]
  cases x.rank? date <;> simp [Comparison.accepts_iff_relates]

end DocumentSchema

import DocumentSchema.Proofs.Double
import DocumentSchema.Filter.Comparison
import Mathlib.Algebra.Order.Field.Power
import Mathlib.Data.Rat.Cast.Order
import Mathlib.Order.Monotone.Basic
import Mathlib.Tactic.FieldSimp
import Mathlib.Tactic.Linarith
import Mathlib.Tactic.NormNum
import Mathlib.Tactic.Positivity

/-!
# Values of numbers

A number denotes a rational however it is written. Doubles of one value are equal
up to the sign of zero, and an integer that is the value of a double is rounded
to that double, so comparing doubles never tells numbers of one value apart.
-/
namespace DocumentSchema

namespace Double

def magnitude (place : Nat) : ℚ := (parts place).1 * 2 ^ (parts place).2

def value (d : Double) : ℚ := if d.negative then -magnitude d.place else magnitude d.place

theorem parts_of_lt {place : Nat} (h : place < binadeSize) : parts place = (place, -1074) := by
  simp [parts, Nat.div_eq_of_lt h, Nat.mod_eq_of_lt h]

theorem parts_of_le {place : Nat} (h : binadeSize ≤ place) :
    parts place =
      (place % binadeSize + binadeSize, ((place / binadeSize : Nat) : Int) - 1075) := by
  have he : place / binadeSize ≠ 0 := by
    unfold binadeSize at h ⊢
    omega
  simp [parts, he]

theorem parts_binadeSize : parts binadeSize = (binadeSize, -1074) := by decide

/-- The next place has the next significand, or at the end of a binade the first one of units of
twice the size. -/
theorem parts_succ (place : Nat) :
    parts (place + 1) = ((parts place).1 + 1, (parts place).2) ∨
      (parts place).1 + 1 = binadeSize * 2 ∧
        parts (place + 1) = (binadeSize, (parts place).2 + 1) := by
  rcases Nat.lt_trichotomy (place + 1) binadeSize with hlt | heq | hgt
  · left
    rw [parts_of_lt hlt, parts_of_lt (by omega)]
  · left
    rw [heq, parts_binadeSize, ← heq, parts_of_lt (by omega)]
  · have hle : binadeSize ≤ place := by omega
    rw [parts_of_le hle, parts_of_le (by omega)]
    -- Only the last place of a binade is followed by one of larger units.
    by_cases hmod : place % binadeSize + 1 < binadeSize
    · left
      have hdiv : (place + 1) / binadeSize = place / binadeSize ∧
          (place + 1) % binadeSize = place % binadeSize + 1 := by
        unfold binadeSize at *
        omega
      rw [hdiv.1, hdiv.2, Nat.add_right_comm]
    · right
      have hdiv : (place + 1) / binadeSize = place / binadeSize + 1 ∧
          (place + 1) % binadeSize = 0 ∧
            place % binadeSize + binadeSize + 1 = binadeSize * 2 := by
        unfold binadeSize at *
        omega
      rw [hdiv.1, hdiv.2.1, Nat.zero_add]
      refine ⟨hdiv.2.2, ?_⟩
      congr 1
      push_cast
      ring

theorem magnitude_succ (place : Nat) :
    magnitude (place + 1) = magnitude place + 2 ^ (parts place).2 := by
  have hunit : ((parts place).1 + 1 : ℚ) * 2 ^ (parts place).2 =
      magnitude place + 2 ^ (parts place).2 := by
    rw [magnitude]
    ring
  rcases parts_succ place with hnext | ⟨hend, hnext⟩
  · rw [magnitude, hnext, ← hunit]
    push_cast
    rfl
  · have hend : ((parts place).1 + 1 : ℚ) = binadeSize * 2 := by exact_mod_cast hend
    rw [magnitude, hnext, ← hunit, hend, zpow_add_one₀ two_ne_zero]
    ring

theorem magnitude_strictMono : StrictMono magnitude := by
  refine strictMono_nat_of_lt_succ fun place => ?_
  have hunit : (0 : ℚ) < 2 ^ (parts place).2 := by positivity
  rw [magnitude_succ]
  linarith

theorem magnitude_zero : magnitude 0 = 0 := by
  simp [magnitude, parts]

theorem magnitude_nonneg (place : Nat) : 0 ≤ magnitude place := by
  unfold magnitude
  positivity

theorem magnitude_eq_zero {place : Nat} : magnitude place = 0 ↔ place = 0 := by
  rw [← magnitude_zero, magnitude_strictMono.injective.eq_iff]

theorem key_le_of_value_le {a b : Double} (h : a.value ≤ b.value) : a.key ≤ b.key := by
  obtain ⟨s, p⟩ := a
  obtain ⟨t, q⟩ := b
  have hp := magnitude_nonneg p
  have hq := magnitude_nonneg q
  cases s <;> cases t <;>
    simp only [value, if_true, Bool.false_eq_true, if_false, key_negative, key_nonnegative] at h ⊢
  · exact Int.ofNat_le.mpr (magnitude_strictMono.le_iff_le.mp h)
  · have hp0 := magnitude_eq_zero.mp (show magnitude p = 0 by linarith)
    have hq0 := magnitude_eq_zero.mp (show magnitude q = 0 by linarith)
    omega
  · omega
  · have hqp := magnitude_strictMono.le_iff_le.mp (neg_le_neg_iff.mp h)
    omega

theorem key_of_value {a b : Double} (h : a.value = b.value) : a.key = b.key :=
  le_antisymm (key_le_of_value_le h.le) (key_le_of_value_le h.ge)

theorem divHalfEven_mul (s : Nat) {d : Nat} (hd : 0 < d) : divHalfEven (s * d) d = s := by
  simp [divHalfEven, Nat.mul_div_cancel s hd, hd]

section Exact

variable {n s : Nat}

theorem log2_mul_two_pow (hlow : 2 ^ 52 ≤ s) (hhigh : s < 2 ^ 53) (j : Nat) :
    (s * 2 ^ j).log2 = 52 + j := by
  have hpos : 0 < 2 ^ j := Nat.two_pow_pos j
  rw [Nat.log2_eq_iff (Nat.mul_ne_zero (by omega) hpos.ne')]
  constructor
  · calc 2 ^ (52 + j) = 2 ^ 52 * 2 ^ j := pow_add _ _ _
      _ ≤ s * 2 ^ j := Nat.mul_le_mul_right _ hlow
  · calc s * 2 ^ j < 2 ^ 53 * 2 ^ j := Nat.mul_lt_mul_of_pos_right hhigh hpos
      _ = 2 ^ (52 + j + 1) := by rw [← pow_add]; congr 1; omega

theorem significand_scaled_up (hlow : 2 ^ 52 ≤ s) (hhigh : s < 2 ^ 53) (j : Nat) :
    significand (s * 2 ^ j) = s := by
  rw [significand, log2_mul_two_pow hlow hhigh, if_neg (by omega), Nat.add_sub_cancel_left,
    divHalfEven_mul s (Nat.two_pow_pos _)]

theorem significand_scaled_down (hlow : 2 ^ 52 ≤ s) (hhigh : s < 2 ^ 53) {j : Nat}
    (h : n * 2 ^ j = s) : n.log2 + j = 52 ∧ significand n = s := by
  have hn : n ≠ 0 := by
    rintro rfl
    omega
  have hn53 : n < 2 ^ 53 := by
    have hle : n * 1 ≤ n * 2 ^ j := Nat.mul_le_mul_left _ (Nat.two_pow_pos j)
    omega
  have hlog : n.log2 + j = 52 := by
    have hlow2 : 2 ^ (n.log2 + j) ≤ s := by
      rw [pow_add, ← h]
      exact Nat.mul_le_mul_right _ (Nat.log2_self_le hn)
    have hhigh2 : s < 2 ^ (n.log2 + j + 1) := by
      rw [← h, add_right_comm, pow_add]
      exact Nat.mul_lt_mul_of_pos_right Nat.lt_log2_self (Nat.two_pow_pos j)
    have hle : n.log2 + j < 53 := (Nat.pow_lt_pow_iff_right one_lt_two).mp (hlow2.trans_lt hhigh)
    have hge : 52 < n.log2 + j + 1 :=
      (Nat.pow_lt_pow_iff_right one_lt_two).mp (hlow.trans_lt hhigh2)
    omega
  refine ⟨hlog, ?_⟩
  rw [significand_of_lt hn53 hn, show 52 - n.log2 = j by omega, h]

theorem significand_of_eq {q : Int} (hlow : 2 ^ 52 ≤ s) (hhigh : s < 2 ^ 53)
    (h : (s : ℚ) * 2 ^ q = n) : (n.log2 : Int) = q + 52 ∧ significand n = s := by
  obtain ⟨j, rfl | rfl⟩ := q.eq_nat_or_neg
  · obtain rfl : n = s * 2 ^ j := by exact_mod_cast h.symm
    refine ⟨?_, significand_scaled_up hlow hhigh j⟩
    rw [log2_mul_two_pow hlow hhigh]
    omega
  · rw [zpow_neg, zpow_natCast, ← div_eq_mul_inv, div_eq_iff (by positivity)] at h
    obtain ⟨hlog, hs⟩ := significand_scaled_down hlow hhigh (by exact_mod_cast h.symm)
    exact ⟨by omega, hs⟩

end Exact

theorem nearest_of_magnitude {n place : Nat} (h : magnitude place = n) : nearest n 1 = place := by
  by_cases hn : n = 0
  · rw [hn, Nat.cast_zero, magnitude_eq_zero] at h
    rw [hn, h, nearest_zero]
  · have hplace : binadeSize ≤ place := by
      by_contra hlt
      have hlt : place < binadeSize := Nat.lt_of_not_le hlt
      have hsmall : magnitude place < magnitude binadeSize := magnitude_strictMono hlt
      have hone : magnitude binadeSize < 1 := by
        have hpow : ((2 ^ 52 : Nat) : ℚ) * 2 ^ (-1074 : Int) = 2 ^ (-1022 : Int) := by
          rw [Nat.cast_pow, Nat.cast_ofNat, ← zpow_natCast, ← zpow_add₀ two_ne_zero]
          rfl
        rw [magnitude, parts_binadeSize, binadeSize_eq, hpow]
        exact zpow_lt_one_of_neg₀ one_lt_two (by decide)
      have hpos : (1 : ℚ) ≤ n := by exact_mod_cast Nat.one_le_iff_ne_zero.mpr hn
      linarith
    rw [magnitude, parts_of_le hplace] at h
    obtain ⟨hlog, hs⟩ := significand_of_eq (by unfold binadeSize; omega)
      (by unfold binadeSize; omega) h
    rw [nearest_one hn, hs]
    unfold binadeSize at *
    omega

theorem key_ofInt_of_value {n : Int} {d : Double} (h : (n : ℚ) = d.value) :
    (ofInt n).key = d.key := by
  obtain ⟨s, p⟩ := d
  have hp := magnitude_nonneg p
  have habs (hm : magnitude p = |(n : ℚ)|) : nearest n.natAbs 1 = p := by
    refine nearest_of_magnitude ?_
    rw [hm, Nat.cast_natAbs, Int.cast_abs]
  cases s <;> simp only [value, if_true, Bool.false_eq_true, if_false] at h
  · have hn : 0 ≤ n := by exact_mod_cast h ▸ hp
    rw [key_ofInt, if_neg (by omega), habs (by rw [abs_of_nonneg (by exact_mod_cast hn), h])]
    rfl
  · have hn : n ≤ 0 := by exact_mod_cast (show (n : ℚ) ≤ 0 by linarith)
    have hplace := habs (by rw [abs_of_nonpos (by exact_mod_cast hn), h, neg_neg])
    rw [key_ofInt, hplace, key_negative]
    split_ifs with hneg
    · rfl
    · rw [show n = 0 by omega, Int.natAbs_zero, nearest_zero] at hplace
      rw [← hplace]
      rfl

/-- An integer below `2 ^ 53` is the value of its double. -/
theorem magnitude_nearest {n : Nat} (hn : n < 2 ^ 53) : magnitude (nearest n 1) = n := by
  by_cases h0 : n = 0
  · rw [h0, nearest_zero, magnitude_zero, Nat.cast_zero]
  · obtain ⟨hlow, -⟩ := significand_bounds h0
    have hhigh := significand_lt hn h0
    rw [nearest_one h0]
    have hle : binadeSize ≤ (n.log2 + 1022) * binadeSize + significand n := by
      unfold binadeSize
      omega
    have hparts : ((n.log2 + 1022) * binadeSize + significand n) % binadeSize + binadeSize =
          significand n ∧
        ((n.log2 + 1022) * binadeSize + significand n) / binadeSize = n.log2 + 1023 := by
      unfold binadeSize
      omega
    have hlog : n.log2 ≤ 52 := Nat.le_of_lt_succ ((Nat.log2_lt h0).mpr hn)
    have hexponent : ((n.log2 + 1023 : Nat) : Int) - 1075 = -((52 - n.log2 : Nat) : Int) := by
      omega
    rw [magnitude, parts_of_le hle, hparts.1, hparts.2, hexponent, significand_of_lt hn h0,
      Nat.cast_mul, Nat.cast_pow, Nat.cast_ofNat, zpow_neg, zpow_natCast]
    exact mul_inv_cancel_right₀ (by positivity) _

theorem value_ofInt {n : Int} (hn : n.natAbs < 2 ^ 53) : (ofInt n).value = n := by
  have hm := magnitude_nearest hn
  rw [Nat.cast_natAbs, Int.cast_abs] at hm
  by_cases h : n < 0
  · rw [ofInt, value, hm, if_pos (by simpa using h), abs_of_neg (by exact_mod_cast h), neg_neg]
  · rw [ofInt, value, hm, if_neg (by simpa using h), abs_of_nonneg (by exact_mod_cast not_lt.mp h)]

theorem magnitude_cases (place : Nat) :
    (∃ n : Nat, magnitude place = n) ∨ magnitude place ≤ 2 ^ 53 - 1 := by
  have hsignificand : (parts place).1 + 1 ≤ 2 ^ 53 := by
    rcases Nat.lt_or_ge place binadeSize with h | h
    · rw [parts_of_lt h]
      unfold binadeSize at h
      omega
    · rw [parts_of_le h]
      unfold binadeSize
      omega
  -- Units of one or more make an integer; below them the magnitude is at most its significand.
  obtain ⟨j, hj | hj⟩ := (parts place).2.eq_nat_or_neg
  · left
    refine ⟨(parts place).1 * 2 ^ j, ?_⟩
    rw [magnitude, hj, zpow_natCast]
    push_cast
    rfl
  · right
    have hunit : (2 : ℚ) ^ (-(j : Int)) ≤ 1 := by
      rw [zpow_neg, zpow_natCast]
      exact inv_le_one_of_one_le₀ (one_le_pow₀ one_le_two)
    calc magnitude place = (parts place).1 * 2 ^ (-(j : Int)) := by rw [magnitude, hj]
      _ ≤ (parts place).1 * 1 := mul_le_mul_of_nonneg_left hunit (Nat.cast_nonneg _)
      _ ≤ 2 ^ 53 - 1 := by
        have hbound : ((parts place).1 : ℚ) + 1 ≤ 2 ^ 53 := by exact_mod_cast hsignificand
        linarith

theorem value_cases (d : Double) : (∃ n : Int, (n : ℚ) = d.value) ∨ |d.value| ≤ 2 ^ 53 - 1 := by
  obtain ⟨s, p⟩ := d
  have hnonneg := magnitude_nonneg p
  rcases magnitude_cases p with ⟨n, hn⟩ | hp
  · left
    cases s
    · exact ⟨n, by simp [value, hn]⟩
    · exact ⟨-n, by simp [value, hn]⟩
  · right
    cases s <;> simpa [value, abs_of_nonneg hnonneg] using hp

/-- An integer at most the value of a double is not rounded past it. -/
theorem key_ofInt_le {n : Int} {d : Double} (h : (n : ℚ) ≤ d.value) : (ofInt n).key ≤ d.key := by
  rcases d.value_cases with ⟨m, hm⟩ | hsmall
  · rw [← hm, Int.cast_le] at h
    rw [← key_ofInt_of_value hm]
    exact key_ofInt_mono h
  · -- The larger one of `n` and the least exact integer is exact, and still at most the value.
    obtain ⟨hlow, hhigh⟩ := abs_le.mp hsmall
    have hn : n ≤ 2 ^ 53 - 1 := by exact_mod_cast h.trans hhigh
    have hmax : ((max n (-(2 ^ 53 - 1)) : Int) : ℚ) ≤ d.value := by
      rw [Int.cast_max]
      refine max_le h ?_
      push_cast
      linarith
    calc (ofInt n).key ≤ (ofInt (max n (-(2 ^ 53 - 1)))).key := key_ofInt_mono (le_max_left _ _)
      _ ≤ d.key := key_le_of_value_le (by rwa [value_ofInt (by omega)])

theorem le_key_ofInt {n : Int} {d : Double} (h : d.value ≤ n) : d.key ≤ (ofInt n).key := by
  rcases d.value_cases with ⟨m, hm⟩ | hsmall
  · rw [← hm, Int.cast_le] at h
    rw [← key_ofInt_of_value hm]
    exact key_ofInt_mono h
  · obtain ⟨hlow, hhigh⟩ := abs_le.mp hsmall
    have hn : -(2 ^ 53 - 1) ≤ n := by exact_mod_cast hlow.trans h
    have hmin : d.value ≤ ((min n (2 ^ 53 - 1) : Int) : ℚ) := by
      rw [Int.cast_min]
      refine le_min h ?_
      push_cast
      linarith
    calc d.key ≤ (ofInt (min n (2 ^ 53 - 1))).key :=
          key_le_of_value_le (by rwa [value_ofInt (by omega)])
      _ ≤ (ofInt n).key := key_ofInt_mono (min_le_left _ _)

end Double

namespace Number

/-- The rational that a number denotes. -/
def value : Number → ℚ
  | int n => n
  | double d => d.value

def isInt : Number → Bool
  | int _ => true
  | double _ => false

variable {a b : Number}

/-- Numbers are compared in the order of their values, though not strictly so. -/
theorem key_le_of_value_le (h : a.value ≤ b.value) : a.toDouble.key ≤ b.toDouble.key := by
  cases a with
  | int m =>
    cases b with
    | int n => exact Double.key_ofInt_mono (Int.cast_le.mp h)
    | double d => exact Double.key_ofInt_le h
  | double d =>
    cases b with
    | int n => exact Double.le_key_ofInt h
    | double d' => exact Double.key_le_of_value_le h

theorem key_of_value (h : a.value = b.value) : a.toDouble.key = b.toDouble.key :=
  le_antisymm (key_le_of_value_le h.le) (key_le_of_value_le h.ge)

theorem equals_of_value (h : a.value = b.value) : a.equals b = true :=
  decide_eq_true (key_of_value h)

theorem same_iff_of_value (h : a.value = b.value) : a.same b = true ↔ a.isInt = b.isInt := by
  cases a with
  | int m =>
    cases b with
    | int n => simpa [same, isInt] using (show m = n from Int.cast_injective h)
    | double d => simp [same, isInt]
  | double d =>
    cases b with
    | int n => simp [same, isInt]
    | double d' => simpa [same, isInt] using Double.key_of_value h

end Number

end DocumentSchema

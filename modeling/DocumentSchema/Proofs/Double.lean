import DocumentSchema.Json.Double
import Mathlib.Tactic.Ring

/-!
# Doubles of integers

Rounding an integer to a double keeps the order of integers, and below `2 ^ 53`
it keeps different integers apart. The places of an integer's double are those
of its binade, with a significand between `2 ^ 52` and `2 ^ 53`.
-/
namespace DocumentSchema.Double

theorem binadeSize_eq : binadeSize = 2 ^ 52 := by decide

theorem divHalfEven_bounds (num den : Nat) :
    num / den ≤ divHalfEven num den ∧ divHalfEven num den ≤ num / den + 1 := by
  unfold divHalfEven
  dsimp only
  split_ifs <;> omega

theorem divHalfEven_mono {a b : Nat} (den : Nat) (h : a ≤ b) :
    divHalfEven a den ≤ divHalfEven b den := by
  have hdiv : a / den ≤ b / den := Nat.div_le_div_right h
  rcases Nat.lt_or_eq_of_le hdiv with hlt | heq
  · have ha := (divHalfEven_bounds a den).2
    have hb := (divHalfEven_bounds b den).1
    omega
  · have ha := Nat.div_add_mod a den
    have hb := Nat.div_add_mod b den
    have hmod : a % den ≤ b % den := by
      rw [heq] at ha
      omega
    unfold divHalfEven
    dsimp only
    rw [heq]
    split_ifs <;> omega

theorem divHalfEven_one (n : Nat) : divHalfEven n 1 = n := by
  simp [divHalfEven, Nat.mod_one]

/-- The significand of the double nearest to a positive integer. It is `2 ^ 53` where rounding
reaches the next binade. -/
def significand (n : Nat) : Nat :=
  if n.log2 < 52 then n * 2 ^ (52 - n.log2) else divHalfEven n (2 ^ (n.log2 - 52))

theorem binaryExponent_one {n : Nat} (hn : n ≠ 0) : binaryExponent n 1 = n.log2 := by
  have hle : 2 ^ n.log2 ≤ n := Nat.log2_self_le hn
  have hlog : Nat.log2 1 = 0 := by decide
  unfold binaryExponent
  simp only [hlog, Nat.cast_zero, sub_zero, Int.toNat_natCast, Nat.pow_eq, one_mul]
  simp [hle, show ¬ (n.log2 : Int) < 0 by omega]

theorem nearest_one {n : Nat} (hn : n ≠ 0) :
    nearest n 1 = (n.log2 + 1022) * binadeSize + significand n := by
  have hq : max (-1074) ((n.log2 : Int) - 52) = (n.log2 : Int) - 52 := by omega
  have hplace : ((n.log2 : Int) - 52 + 1074).toNat = n.log2 + 1022 := by omega
  unfold nearest significand
  simp only [if_neg hn, binaryExponent_one hn, hq, hplace, Nat.pow_eq]
  congr 1
  by_cases hs : n.log2 < 52
  · have hexp : (-((n.log2 : Int) - 52)).toNat = 52 - n.log2 := by omega
    rw [if_pos hs, if_pos (by omega), hexp, divHalfEven_one]
  · have hexp : ((n.log2 : Int) - 52).toNat = n.log2 - 52 := by omega
    rw [if_neg hs, if_neg (by omega), hexp, one_mul]

theorem significand_of_lt {n : Nat} (hn : n < 2 ^ 53) (h0 : n ≠ 0) :
    significand n = n * 2 ^ (52 - n.log2) := by
  have hlog : n.log2 < 53 := (Nat.log2_lt h0).mpr hn
  unfold significand
  split
  · rfl
  · have h52 : n.log2 = 52 := by omega
    rw [h52, Nat.sub_self, pow_zero, divHalfEven_one, mul_one]

theorem significand_bounds {n : Nat} (hn : n ≠ 0) :
    2 ^ 52 ≤ significand n ∧ significand n ≤ 2 ^ 53 := by
  have hlow : 2 ^ n.log2 ≤ n := Nat.log2_self_le hn
  have hhigh : n < 2 ^ (n.log2 + 1) := Nat.lt_log2_self
  -- Few bits are filled up with zeros, of many the last ones are rounded off.
  by_cases hs : n.log2 < 52
  · have hscale : 2 ^ n.log2 * 2 ^ (52 - n.log2) = 2 ^ 52 := by
      rw [← pow_add]
      congr 1
      omega
    rw [significand, if_pos hs]
    constructor
    · calc 2 ^ 52 = 2 ^ n.log2 * 2 ^ (52 - n.log2) := hscale.symm
        _ ≤ n * 2 ^ (52 - n.log2) := Nat.mul_le_mul_right _ hlow
    · calc n * 2 ^ (52 - n.log2) ≤ 2 ^ (n.log2 + 1) * 2 ^ (52 - n.log2) :=
            Nat.mul_le_mul_right _ hhigh.le
        _ = 2 * (2 ^ n.log2 * 2 ^ (52 - n.log2)) := by ring
        _ = 2 ^ 53 := by rw [hscale]; rfl
  · have hscale : 2 ^ 52 * 2 ^ (n.log2 - 52) = 2 ^ n.log2 := by
      rw [← pow_add]
      congr 1
      omega
    have hpos : 0 < 2 ^ (n.log2 - 52) := Nat.two_pow_pos _
    have hdivLow : 2 ^ 52 ≤ n / 2 ^ (n.log2 - 52) := by
      rw [Nat.le_div_iff_mul_le hpos, hscale]
      exact hlow
    have hdivHigh : n / 2 ^ (n.log2 - 52) < 2 ^ 53 := by
      rw [Nat.div_lt_iff_lt_mul hpos]
      calc n < 2 ^ (n.log2 + 1) := hhigh
        _ = 2 ^ 53 * 2 ^ (n.log2 - 52) := by rw [pow_succ, ← hscale]; ring
    have hbounds := divHalfEven_bounds n (2 ^ (n.log2 - 52))
    rw [significand, if_neg hs]
    omega

theorem significand_lt {n : Nat} (hn : n < 2 ^ 53) (h0 : n ≠ 0) : significand n < 2 ^ 53 := by
  have hlog : n.log2 ≤ 52 := Nat.le_of_lt_succ ((Nat.log2_lt h0).mpr hn)
  rw [significand_of_lt hn h0]
  calc n * 2 ^ (52 - n.log2) < 2 ^ (n.log2 + 1) * 2 ^ (52 - n.log2) :=
        Nat.mul_lt_mul_of_pos_right Nat.lt_log2_self (Nat.two_pow_pos _)
    _ = 2 ^ 53 := by
        rw [← pow_add]
        congr 1
        omega

theorem significand_mono {a b : Nat} (h : a ≤ b) (hlog : a.log2 = b.log2) :
    significand a ≤ significand b := by
  unfold significand
  rw [hlog]
  split
  · exact Nat.mul_le_mul_right _ h
  · exact divHalfEven_mono _ h

theorem log2_mono {a b : Nat} (ha : a ≠ 0) (h : a ≤ b) : a.log2 ≤ b.log2 := by
  rw [Nat.le_log2 (by omega)]
  exact (Nat.log2_self_le ha).trans h

theorem nearest_zero : nearest 0 1 = 0 := rfl

theorem nearest_pos {n : Nat} (hn : n ≠ 0) : 0 < nearest n 1 := by
  have hs := (significand_bounds hn).1
  rw [nearest_one hn]
  omega

/-- An integer with more bits has a place no smaller than the end of the smaller one's binade. -/
theorem nearest_of_log2_lt {a b : Nat} (hb : b ≠ 0) (hlog : a.log2 < b.log2) :
    (a.log2 + 1022) * binadeSize + 2 ^ 53 ≤ nearest b 1 := by
  have hs := (significand_bounds hb).1
  rw [nearest_one hb, binadeSize_eq]
  omega

theorem nearest_mono {a b : Nat} (h : a ≤ b) : nearest a 1 ≤ nearest b 1 := by
  by_cases ha : a = 0
  · rw [ha, nearest_zero]
    exact Nat.zero_le _
  · have hb : b ≠ 0 := by omega
    rcases Nat.lt_or_eq_of_le (log2_mono ha h) with hlog | hlog
    · have hs := (significand_bounds ha).2
      have hend := nearest_of_log2_lt hb hlog
      rw [nearest_one ha]
      omega
    · have hs := significand_mono h hlog
      rw [nearest_one ha, nearest_one hb, hlog]
      omega

theorem nearest_lt {a b : Nat} (h : a < b) (ha : a < 2 ^ 53) : nearest a 1 < nearest b 1 := by
  have hb : b ≠ 0 := by omega
  by_cases h0 : a = 0
  · rw [h0, nearest_zero]
    exact nearest_pos hb
  · rcases Nat.lt_or_eq_of_le (log2_mono h0 h.le) with hlog | hlog
    · have hlt := significand_lt ha h0
      have hend := nearest_of_log2_lt hb hlog
      rw [nearest_one h0]
      omega
    · have hb53 : b < 2 ^ 53 := by
        rw [← Nat.log2_lt hb, ← hlog]
        exact (Nat.log2_lt h0).mpr ha
      have hlt : significand a < significand b := by
        rw [significand_of_lt ha h0, significand_of_lt hb53 hb, hlog]
        exact Nat.mul_lt_mul_of_pos_right h (Nat.two_pow_pos _)
      rw [nearest_one h0, nearest_one hb, hlog]
      omega

theorem key_ofInt (n : Int) :
    (ofInt n).key = if n < 0 then -(nearest n.natAbs 1 : Int) else nearest n.natAbs 1 := by
  by_cases hn : n < 0 <;> simp [key, ofInt, hn]

theorem key_ofInt_mono {a b : Int} (h : a ≤ b) : (ofInt a).key ≤ (ofInt b).key := by
  rw [key_ofInt, key_ofInt]
  split_ifs with ha hb
  · have hn : nearest b.natAbs 1 ≤ nearest a.natAbs 1 := nearest_mono (by omega)
    omega
  · omega
  · omega
  · have hn : nearest a.natAbs 1 ≤ nearest b.natAbs 1 := nearest_mono (by omega)
    omega

theorem eq_of_key_ofInt {a b : Int} (ha : a.natAbs < 2 ^ 53)
    (h : (ofInt a).key = (ofInt b).key) : a = b := by
  have hpos {n : Int} (hn : n < 0) : 0 < nearest n.natAbs 1 := nearest_pos (by omega)
  -- A smaller magnitude has a smaller place, where the smaller of the two is below `2 ^ 53`.
  have hmagnitude (hn : nearest a.natAbs 1 = nearest b.natAbs 1) : a.natAbs = b.natAbs := by
    rcases Nat.lt_trichotomy a.natAbs b.natAbs with hlt | heq | hgt
    · have hplace := nearest_lt hlt ha
      omega
    · exact heq
    · have hplace := nearest_lt hgt (hgt.trans ha)
      omega
  rw [key_ofInt, key_ofInt] at h
  split_ifs at h with hneg hneg' hneg'
  · have hn := hmagnitude (by omega)
    omega
  · have hp := hpos hneg
    omega
  · have hp := hpos hneg'
    omega
  · have hn := hmagnitude (by omega)
    omega

end DocumentSchema.Double

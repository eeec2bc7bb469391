import Mathlib.Algebra.Order.Field.Power
import Mathlib.Data.Nat.Log
import Mathlib.Data.Rat.Cast.Order
import Mathlib.Tactic.FieldSimp
import Mathlib.Tactic.Linarith
import Mathlib.Tactic.NormNum
import Mathlib.Tactic.Positivity
import Mathlib.Tactic.Ring
import RunQuery.Decimal.Shortest

/-!
# What a fraction is rounded to

A fraction is rounded in units of the last place of its significand. The unit is found from the
binary order of the fraction, and the significand by dividing to the nearest integer, a half to the
even neighbour. This is stated here for rationals, where a quotient of two powers with exponents cut
off at zero is a single power.

The result is a rank, and the rank of a significand in some unit does not depend on where the
binades lie. So a fraction just below a power of two may be rounded in the finer unit of the binade
below, with a significand that has a bit too many, and has the right rank all the same.
-/

namespace RunQuery

/-- Powers cut off at zero on either side of a fraction are one power. -/
theorem pow_toNat_div_pow_toNat (b : ℚ) (e : Int) :
    b ^ e.toNat / b ^ (-e).toNat = b ^ e := by
  obtain he | he := le_total 0 e
  · rw [Int.toNat_of_nonpos (by omega : -e ≤ 0), pow_zero, div_one, ← zpow_natCast,
      Int.toNat_of_nonneg he]
  · rw [Int.toNat_of_nonpos he, pow_zero, one_div, ← zpow_natCast,
      Int.toNat_of_nonneg (by omega), zpow_neg, inv_inv]

namespace Rank

/-! ## Division to the nearest integer -/

theorem divideToEven_eq {num den m : Nat} (hden : 0 < den)
    (hlow : 2 * m * den ≤ 2 * num + den) (hhigh : 2 * num ≤ 2 * m * den + den)
    (hodd : m % 2 = 1 → 2 * m * den ≠ 2 * num + den ∧ 2 * num ≠ 2 * m * den + den) :
    divideToEven num den = m := by
  have hdivision : den * (num / den) + num % den = num := Nat.div_add_mod num den
  have hremainder : num % den < den := Nat.mod_lt _ hden
  unfold divideToEven
  dsimp only
  generalize num / den = q at *
  generalize num % den = remainder at *
  -- the nearest integer is the floor or the one above it
  have hq : q = m ∨ q + 1 = m := by
    by_contra hfar
    obtain hless | hmore : q + 2 ≤ m ∨ m + 1 ≤ q := by omega
    · have : (q + 2) * den ≤ m * den := Nat.mul_le_mul_right _ hless
      nlinarith
    · have : den * (m + 1) ≤ den * q := Nat.mul_le_mul_left _ hmore
      nlinarith
  obtain rfl | rfl := hq
  · -- rounded down: a remainder of just a half leaves an even quotient
    have htwice : 2 * remainder ≤ den := by nlinarith
    by_cases hhalf : 2 * remainder = den
    · have heven : q % 2 = 0 := by
        by_contra hq
        exact (hodd (by omega)).2 (by nlinarith)
      rw [if_neg (by omega), if_neg (by omega), heven, add_zero]
    · rw [if_pos (by omega)]
  · -- rounded up
    have htwice : den ≤ 2 * remainder := by nlinarith
    by_cases hhalf : 2 * remainder = den
    · have heven : (q + 1) % 2 = 0 := by
        by_contra hq
        exact (hodd (by omega)).1 (by nlinarith)
      rw [if_neg (by omega), if_neg (by omega)]
      omega
    · rw [if_neg (by omega), if_pos (by omega)]

/-! ## The binary order -/

theorem log2_le_cast {n : Nat} (hn : 0 < n) : (2 : ℚ) ^ (n.log2 : Int) ≤ n := by
  rw [zpow_natCast]
  exact_mod_cast Nat.log2_self_le hn.ne'

theorem cast_lt_log2 (n : Nat) : (n : ℚ) < 2 ^ ((n.log2 : Int) + 1) := by
  have h : n < 2 ^ (n.log2 + 1) := Nat.lt_log2_self
  rw [show (n.log2 : Int) + 1 = ((n.log2 + 1 : Nat) : Int) by push_cast; rfl, zpow_natCast]
  exact_mod_cast h

theorem mul_pow_lt_mul_pow_iff {num den : Nat} (hden : 0 < den) (e : Int) :
    num * Nat.pow 2 (-e).toNat < den * Nat.pow 2 e.toNat ↔ (num : ℚ) / den < 2 ^ e := by
  have hden' : (0 : ℚ) < den := by exact_mod_cast hden
  rw [← pow_toNat_div_pow_toNat 2 e,
    div_lt_div_iff₀ hden' (by positivity), ← Nat.cast_lt (α := ℚ)]
  push_cast [Nat.pow_eq]
  rw [mul_comm (den : ℚ)]

/-- The binary order of a fraction, by the powers of two around it. -/
theorem binaryOrder_spec {num den : Nat} (hnum : 0 < num) (hden : 0 < den) :
    (2 : ℚ) ^ binaryOrder num den ≤ (num : ℚ) / den ∧
      (num : ℚ) / den < 2 ^ (binaryOrder num den + 1) := by
  have hden' : (0 : ℚ) < den := by exact_mod_cast hden
  have hlow : (2 : ℚ) ^ ((num.log2 : Int) - den.log2 - 1) ≤ (num : ℚ) / den := by
    rw [le_div_iff₀ hden']
    calc (2 : ℚ) ^ ((num.log2 : Int) - den.log2 - 1) * den
        ≤ 2 ^ ((num.log2 : Int) - den.log2 - 1) * 2 ^ ((den.log2 : Int) + 1) :=
          mul_le_mul_of_nonneg_left (cast_lt_log2 den).le (by positivity)
      _ = 2 ^ (num.log2 : Int) := by
          rw [← zpow_add₀ (by norm_num)]
          congr 1
          ring
      _ ≤ num := log2_le_cast hnum
  have hhigh : (num : ℚ) / den < 2 ^ ((num.log2 : Int) - den.log2 + 1) := by
    rw [div_lt_iff₀ hden']
    calc (num : ℚ) < 2 ^ ((num.log2 : Int) + 1) := cast_lt_log2 num
      _ = 2 ^ ((num.log2 : Int) - den.log2 + 1) * 2 ^ (den.log2 : Int) := by
          rw [← zpow_add₀ (by norm_num)]
          congr 1
          ring
      _ ≤ 2 ^ ((num.log2 : Int) - den.log2 + 1) * den :=
          mul_le_mul_of_nonneg_left (log2_le_cast hden) (by positivity)
  unfold binaryOrder
  dsimp only
  by_cases hless : (num : ℚ) / den < 2 ^ ((num.log2 : Int) - den.log2)
  · rw [if_pos ((mul_pow_lt_mul_pow_iff hden _).mpr hless)]
    exact ⟨hlow, by rwa [sub_add_cancel]⟩
  · rw [if_neg (mt (mul_pow_lt_mul_pow_iff hden _).mp hless)]
    exact ⟨not_lt.mp hless, hhigh⟩

theorem binaryOrder_lt {num den : Nat} (hnum : 0 < num) (hden : 0 < den) {b : Int}
    (h : (num : ℚ) / den < 2 ^ b) : binaryOrder num den < b :=
  (zpow_lt_zpow_iff_right₀ (by norm_num : (1 : ℚ) < 2)).mp
    ((binaryOrder_spec hnum hden).1.trans_lt h)

theorem le_binaryOrder {num den : Nat} (hnum : 0 < num) (hden : 0 < den) {b : Int}
    (h : (2 : ℚ) ^ b ≤ (num : ℚ) / den) : b ≤ binaryOrder num den :=
  Int.lt_add_one_iff.mp <| (zpow_lt_zpow_iff_right₀ (by norm_num : (1 : ℚ) < 2)).mp
    (h.trans_lt (binaryOrder_spec hnum hden).2)

/-! ## Rounding -/

/-- A fraction in a unit, as the two naturals that are divided. -/
theorem div_eq_scaled_mul {den : Nat} (hden : 0 < den) (num : Nat) (e : Int) :
    (num : ℚ) / den
      = (num * Nat.pow 2 (-e).toNat : Nat) / (den * Nat.pow 2 e.toNat : Nat) * 2 ^ e := by
  have hden' : (den : ℚ) ≠ 0 := by exact_mod_cast hden.ne'
  rw [← pow_toNat_div_pow_toNat 2 e]
  push_cast [Nat.pow_eq]
  field_simp

/-- The rank of the significand that is nearest, in the unit that the binary order gives. -/
theorem ofFraction_eq {num den m : Nat} {e : Int} (hnum : 0 < num) (hden : 0 < den)
    (hunit : max (binaryOrder num den - 52) (-1074) = e)
    (hlow : (2 * m - 1) * (2 : ℚ) ^ e ≤ 2 * (num / den))
    (hhigh : 2 * ((num : ℚ) / den) ≤ (2 * m + 1) * 2 ^ e)
    (hodd : m % 2 = 1 → (2 * m - 1) * (2 : ℚ) ^ e ≠ 2 * (num / den) ∧
      2 * ((num : ℚ) / den) ≠ (2 * m + 1) * 2 ^ e) :
    ofFraction num den = clamp (m + (e + 1074).toNat * Nat.pow 2 52) := by
  have hpower : (0 : ℚ) < 2 ^ e := by positivity
  have hscaled : 0 < den * Nat.pow 2 e.toNat := Nat.mul_pos hden (Nat.pow_pos (by norm_num))
  rw [div_eq_scaled_mul hden num e] at hlow hhigh hodd
  unfold ofFraction
  dsimp only
  rw [if_neg hnum.ne', hunit]
  generalize num * Nat.pow 2 (-e).toNat = n at *
  generalize den * Nat.pow 2 e.toNat = d at *
  rw [← mul_assoc, mul_le_mul_iff_left₀ hpower] at hlow hhigh
  simp only [← mul_assoc, ne_eq, mul_left_inj' hpower.ne'] at hodd
  have hd : (0 : ℚ) < d := by exact_mod_cast hscaled
  have hn : (n : ℚ) / d * d = n := div_mul_cancel₀ _ hd.ne'
  rw [divideToEven_eq hscaled]
  · have h := mul_le_mul_of_nonneg_right hlow hd.le
    exact_mod_cast (by linarith : (2 * m * d : ℚ) ≤ 2 * n + d)
  · have h := mul_le_mul_of_nonneg_right hhigh hd.le
    exact_mod_cast (by linarith : (2 * n : ℚ) ≤ 2 * m * d + d)
  · intro hm
    obtain ⟨hbelow, habove⟩ := hodd hm
    constructor
    · intro h
      have h' : (2 * m * d : ℚ) = 2 * n + d := by exact_mod_cast h
      refine hbelow (mul_right_cancel₀ hd.ne' ?_)
      linarith
    · intro h
      have h' : (2 * n : ℚ) = 2 * m * d + d := by exact_mod_cast h
      refine habove (mul_right_cancel₀ hd.ne' ?_)
      linarith

/-! ## Ranks as numbers -/

variable (r : Rank)

theorem le_exponent : -1074 ≤ r.exponent := by
  unfold exponent
  split
  · exact le_rfl
  · have : 1 ≤ r.val / Nat.pow 2 52 := (Nat.one_le_div_iff (by norm_num)).mpr (by omega)
    omega

theorem exponent_le {r : Rank} (h : r.val < infinityRank) : r.exponent ≤ 971 := by
  have hquotient : r.val / Nat.pow 2 52 < 2047 := Nat.div_lt_of_lt_mul h
  unfold exponent
  split <;> omega

theorem significand_lt : r.significand < 2 * Nat.pow 2 52 := by
  unfold significand
  split
  · omega
  · have : r.val % Nat.pow 2 52 < Nat.pow 2 52 := Nat.mod_lt _ (by norm_num)
    omega

theorem le_significand (h : -1074 < r.exponent) : Nat.pow 2 52 ≤ r.significand := by
  unfold exponent at h
  unfold significand
  split
  · rw [if_pos ‹_›] at h
    omega
  · omega

theorem significand_pos (h : 0 < r.val) : 0 < r.significand := by
  unfold significand
  split
  · exact h
  · have : 0 < Nat.pow 2 52 := by norm_num
    omega

/-- A rank from its significand and its exponent. -/
theorem val_eq : r.val = r.significand + (r.exponent + 1074).toNat * Nat.pow 2 52 := by
  unfold significand exponent
  split
  · simp
  · have hdivision := Nat.div_add_mod r.val (Nat.pow 2 52)
    have hquotient : 1 ≤ r.val / Nat.pow 2 52 :=
      (Nat.one_le_div_iff (by norm_num)).mpr (by omega)
    have hexponent : ((r.val / Nat.pow 2 52 : Nat) - 1075 + 1074 : Int).toNat
        = r.val / Nat.pow 2 52 - 1 := by omega
    rw [hexponent, Nat.sub_mul]
    have := Nat.mul_le_mul_right (Nat.pow 2 52) hquotient
    rw [mul_comm] at hdivision
    omega

@[simp] theorem clamp_val : clamp r.val = r := by
  ext
  exact min_eq_left (Nat.lt_succ_iff.mp r.isLt)

/-! ## Whole numbers -/

theorem divideToEven_le (num den : Nat) : divideToEven num den ≤ num / den + 1 := by
  unfold divideToEven
  dsimp only
  split_ifs <;> omega

theorem binaryOrder_one {n : Nat} (hn : n ≠ 0) : binaryOrder n 1 = n.log2 := by
  have hlog : Nat.log2 1 = 0 := by decide
  unfold binaryOrder
  dsimp only
  rw [hlog, Int.ofNat_zero, Int.sub_zero, if_neg]
  rw [Int.toNat_neg_natCast, Int.toNat_natCast, one_mul, not_lt]
  simpa using Nat.log2_self_le hn

theorem ofNat_lt_infinityRank {n : Nat} (h : n < 2 ^ 65) : (ofNat n).val < infinityRank := by
  by_cases hn : n = 0
  · subst hn
    decide
  have hlog : n.log2 < 65 := (Nat.log2_lt hn).mpr h
  have hunit : max ((n.log2 : Int) - 52) (-1074) = n.log2 - 52 := by omega
  obtain ⟨up, hup⟩ : ∃ up, (-((n.log2 : Int) - 52)).toNat = up := ⟨_, rfl⟩
  obtain ⟨down, hdown⟩ : ∃ down, ((n.log2 : Int) - 52).toNat = down := ⟨_, rfl⟩
  -- the significand has no more than 53 bits before it is rounded
  have hquotient : n * Nat.pow 2 up / (1 * Nat.pow 2 down) < 2 ^ 53 := by
    have hsum : n.log2 + 1 + up = 53 + down := by omega
    have hden : 0 < 1 * Nat.pow 2 down := Nat.mul_pos Nat.one_pos (Nat.pow_pos Nat.two_pos)
    rw [Nat.div_lt_iff_lt_mul hden]
    calc n * Nat.pow 2 up
        < 2 ^ (n.log2 + 1) * Nat.pow 2 up :=
          Nat.mul_lt_mul_of_pos_right Nat.lt_log2_self (Nat.pow_pos Nat.two_pos)
      _ = 2 ^ 53 * (1 * Nat.pow 2 down) := by
          rw [Nat.one_mul, Nat.pow_eq, Nat.pow_eq, ← pow_add, ← pow_add, hsum]
  have hsignificand := divideToEven_le (n * Nat.pow 2 up) (1 * Nat.pow 2 down)
  have hbinade : ((n.log2 : Int) - 52 + 1074).toNat ≤ 1086 := by omega
  have hfar : ∀ q s b : Nat, q < 2 ^ 53 → s ≤ q + 1 → b ≤ 1086 →
      s + b * Nat.pow 2 52 < 2047 * Nat.pow 2 52 := by
    intro q s b hq hs hb
    have hpower : Nat.pow 2 52 = 2 ^ 52 := rfl
    rw [hpower]
    omega
  rw [ofNat, ofFraction, if_neg hn, binaryOrder_one hn]
  dsimp only
  rw [hunit, hup, hdown]
  exact Nat.lt_of_le_of_lt (Nat.min_le_left _ _) (hfar _ _ _ hquotient hsignificand hbinade)

end Rank

namespace Double

theorem isFinite_iff {negative : Bool} {r : Rank} :
    (signed negative r).isFinite = true ↔ r.val ≠ infinityRank := bne_iff_ne

theorem isFinite_ofInt {n : Int} (h : n.natAbs < 2 ^ 65) : (ofInt n).isFinite = true :=
  isFinite_iff.mpr (Rank.ofNat_lt_infinityRank h).ne

end Double

end RunQuery

import RunQuery.Proofs.Double.Rounding

/-!
# Shortest decimals read back

The decimal that is found for a double is rounded to that double again. Two facts carry this. All
that lies in the rounding interval of a double is rounded to it; and the search, which stops at the
first grid with a point in the interval, does come to such a grid, because the last grid that it
tries is finer than the distance from the double to the upper end of its interval.

The finest grid is found from an estimate of the decimal order: 1233 / 4096 stands for the logarithm
of two, and over the exponents of the doubles the error stays far below the digits to spare.
-/

namespace RunQuery.Decimal

/-! ## Powers of ten and of two -/

/-- A power of ten is below a power of two if their exponents are as 3 to 10, or as 28 to 93 where
they are negative. -/
theorem ten_zpow_lt_two_zpow {k c : Int} (hpos : 0 ≤ k → 10 * k < 3 * c)
    (hneg : k < 0 → 93 * k < 28 * c) : (10 : ℚ) ^ k < 2 ^ c := by
  obtain hk | hk := le_or_gt 0 k
  · refine lt_of_pow_lt_pow_left₀ 3 (by positivity) ?_
    calc ((10 : ℚ) ^ k) ^ 3 = (10 ^ 3) ^ k := by
          rw [← zpow_natCast, ← zpow_mul, mul_comm, zpow_mul, zpow_natCast]
      _ ≤ (2 ^ 10) ^ k := zpow_le_zpow_left₀ hk (by norm_num) (by norm_num)
      _ = 2 ^ (10 * k) := by rw [zpow_mul]; norm_cast
      _ < 2 ^ (3 * c) := zpow_lt_zpow_right₀ (by norm_num) (hpos hk)
      _ = ((2 : ℚ) ^ c) ^ 3 := by rw [mul_comm, zpow_mul, ← zpow_natCast]; rfl
  · refine lt_of_pow_lt_pow_left₀ 28 (by positivity) ?_
    calc ((10 : ℚ) ^ k) ^ 28 = (10 ^ 28) ^ k := by
          rw [← zpow_natCast, ← zpow_mul, mul_comm, zpow_mul, zpow_natCast]
      _ = ((10 ^ 28) ^ (-k))⁻¹ := by rw [zpow_neg, inv_inv]
      _ ≤ ((2 ^ 93) ^ (-k))⁻¹ :=
          inv_anti₀ (by positivity) (zpow_le_zpow_left₀ (by omega) (by norm_num) (by norm_num))
      _ = 2 ^ (93 * k) := by
          rw [← zpow_neg, neg_neg, zpow_mul]
          norm_cast
      _ < 2 ^ (28 * c) := zpow_lt_zpow_right₀ (by norm_num) (hneg hk)
      _ = ((2 : ℚ) ^ c) ^ 28 := by rw [mul_comm, zpow_mul, ← zpow_natCast]; rfl

namespace RoundingInterval

/-! ## The interval as rationals -/

theorem contains_iff {i : RoundingInterval} (hi : 0 < i.den) {n d : Nat} (hd : 0 < d) :
    i.contains n d = true ↔
      ((i.low : ℚ) / i.den ≤ n / d ∧ (n : ℚ) / d ≤ i.high / i.den) ∧
        (i.closed = false → (i.low : ℚ) / i.den ≠ n / d ∧ (n : ℚ) / d ≠ i.high / i.den) := by
  have hi' : (0 : ℚ) < i.den := by exact_mod_cast hi
  have hd' : (0 : ℚ) < d := by exact_mod_cast hd
  rw [div_le_div_iff₀ hi' hd', div_le_div_iff₀ hd' hi', ne_eq, ne_eq,
    div_eq_div_iff hi'.ne' hd'.ne', div_eq_div_iff hd'.ne' hi'.ne', contains]
  norm_cast
  cases i.closed with
  | true => simp
  | false => simp [lt_iff_le_and_ne]; tauto

variable (r : Rank)

/-- How far the interval reaches down, in quarters of a unit. -/
def reach : Nat := if r.significand = Nat.pow 2 52 ∧ r.exponent ≠ -1074 then 1 else 2

theorem one_le_reach : 1 ≤ reach r := by
  unfold reach
  split <;> omega

theorem reach_le_two : reach r ≤ 2 := by
  unfold reach
  split <;> omega

theorem quarter_pos : (0 : ℚ) < 2 ^ (r.exponent - 2) := by positivity

theorem zpow_exponent : (2 : ℚ) ^ r.exponent = 4 * 2 ^ (r.exponent - 2) := by
  rw [zpow_sub₀ (by norm_num)]
  ring

theorem zpow_exponent_add : (2 : ℚ) ^ (r.exponent + 52) = (4 * 2 ^ 52) * 2 ^ (r.exponent - 2) := by
  rw [zpow_add₀ (by norm_num), zpow_exponent]
  norm_num
  ring

theorem zpow_exponent_sub : (2 : ℚ) ^ (r.exponent - 1) = 2 * 2 ^ (r.exponent - 2) := by
  rw [zpow_sub₀ (by norm_num), zpow_sub₀ (by norm_num)]
  norm_num
  ring

theorem den_ofRank_pos : 0 < (ofRank r).den := Nat.pow_pos (by norm_num)

/-- What counts in quarters of a unit, as a rational. -/
theorem quarters_div_den (n : Nat) :
    ((n * Nat.pow 2 (r.exponent - 2).toNat : Nat) : ℚ) / (ofRank r).den
      = n * 2 ^ (r.exponent - 2) := by
  have hden : ((ofRank r).den : ℚ) = 2 ^ (-(r.exponent - 2)).toNat := Nat.cast_pow _ _
  rw [← pow_toNat_div_pow_toNat 2 (r.exponent - 2), hden, ← mul_div_assoc]
  push_cast [Nat.pow_eq]
  rfl

theorem low_ofRank {r : Rank} (hr : 0 < r.val) :
    ((ofRank r).low : ℚ) / (ofRank r).den
      = (4 * r.significand - reach r) * 2 ^ (r.exponent - 2) := by
  have hsignificand := r.significand_pos hr
  have hreach : reach r ≤ 4 * r.significand := by
    have := reach_le_two r
    omega
  have hlow : (ofRank r).low
      = (4 * r.significand - reach r) * Nat.pow 2 (r.exponent - 2).toNat := rfl
  rw [hlow, quarters_div_den, Nat.cast_sub hreach]
  push_cast
  rfl

theorem value_ofRank :
    ((ofRank r).value : ℚ) / (ofRank r).den = r.significand * 2 ^ r.exponent := by
  have hvalue : (ofRank r).value = 4 * r.significand * Nat.pow 2 (r.exponent - 2).toNat := rfl
  rw [hvalue, quarters_div_den, zpow_exponent]
  push_cast
  ring

theorem high_ofRank :
    ((ofRank r).high : ℚ) / (ofRank r).den
      = (4 * r.significand + 2) * 2 ^ (r.exponent - 2) := by
  have hhigh : (ofRank r).high = (4 * r.significand + 2) * Nat.pow 2 (r.exponent - 2).toNat := rfl
  rw [hhigh, quarters_div_den]
  push_cast
  rfl

/-! ## All of the interval is rounded to the double -/

/-- The numbers that are rounded to a rank: within half a unit of its significand, or a quarter
below a power of two, and on the ends only where the significand is even. -/
structure Near (r : Rank) (x : ℚ) : Prop where
  /-- Not below the interval. -/
  low : (4 * r.significand - reach r) * 2 ^ (r.exponent - 2) ≤ x
  /-- Not above the interval. -/
  high : x ≤ (4 * r.significand + 2) * 2 ^ (r.exponent - 2)
  /-- Inside it, where the significand is odd. -/
  inside : r.significand % 2 = 1 →
    (4 * r.significand - reach r) * 2 ^ (r.exponent - 2) ≠ x ∧
      x ≠ (4 * r.significand + 2) * 2 ^ (r.exponent - 2)

theorem near_of_contains {r : Rank} (hr : 0 < r.val) {n d : Nat} (hd : 0 < d)
    (h : (ofRank r).contains n d = true) : Near r (n / d) := by
  rw [contains_iff (den_ofRank_pos r) hd, low_ofRank hr, high_ofRank] at h
  obtain ⟨⟨hlow, hhigh⟩, hinside⟩ := h
  refine ⟨hlow, hhigh, fun hodd ↦ hinside ?_⟩
  change decide (r.significand % 2 = 0) = false
  simp [hodd]

namespace Near

variable {r : Rank} {x : ℚ}

theorem zpow_le (h : Near r x) (hr : 0 < r.val) : (2 : ℚ) ^ (-1075 : Int) ≤ x := by
  have hsignificand : (1 : ℚ) ≤ r.significand := by exact_mod_cast r.significand_pos hr
  have hreach : (reach r : ℚ) ≤ 2 := by exact_mod_cast reach_le_two r
  have hquarter := quarter_pos r
  have hbottom := r.le_exponent
  calc (2 : ℚ) ^ (-1075 : Int) ≤ 2 ^ (r.exponent - 1) :=
        zpow_le_zpow_right₀ (by norm_num) (by omega)
    _ = 2 * 2 ^ (r.exponent - 2) := zpow_exponent_sub r
    _ ≤ (4 * r.significand - reach r) * 2 ^ (r.exponent - 2) :=
        mul_le_mul_of_nonneg_right (by linarith) hquarter.le
    _ ≤ x := h.low

theorem pos (h : Near r x) (hr : 0 < r.val) : 0 < x :=
  lt_of_lt_of_le (by positivity) (h.zpow_le hr)

theorem lt_zpow (h : Near r x) : x < 2 ^ (r.exponent + 53) := by
  have hsignificand : (r.significand : ℚ) + 1 ≤ 2 * 2 ^ 52 := by
    exact_mod_cast r.significand_lt
  have hquarter := quarter_pos r
  calc x ≤ (4 * r.significand + 2) * 2 ^ (r.exponent - 2) := h.high
    _ < (4 * (2 * 2 ^ 52)) * 2 ^ (r.exponent - 2) :=
        mul_lt_mul_of_pos_right (by linarith) hquarter
    _ = 2 ^ (r.exponent + 53) := by
        rw [zpow_add₀ (by norm_num), zpow_exponent]
        norm_num
        ring

theorem significand_eq (h : Near r x) (he : -1074 < r.exponent)
    (hless : x < 2 ^ (r.exponent + 52)) : r.significand = Nat.pow 2 52 := by
  by_contra hne
  have hsignificand : (2 ^ 52 + 1 : ℚ) ≤ r.significand := by
    exact_mod_cast lt_of_le_of_ne (r.le_significand he) (Ne.symm hne)
  have hreach : (reach r : ℚ) ≤ 2 := by exact_mod_cast reach_le_two r
  have hquarter := quarter_pos r
  rw [zpow_exponent_add] at hless
  have := lt_of_mul_lt_mul_right (h.low.trans_lt hless) hquarter.le
  linarith

variable {n d : Nat}

theorem ofFraction_eq_of_unit (h : Near r (n / d)) (hn : 0 < n) (hd : 0 < d)
    (hunit : max (Rank.binaryOrder n d - 52) (-1074) = r.exponent) :
    Rank.ofFraction n d = r := by
  have hreach : (reach r : ℚ) ≤ 2 := by exact_mod_cast reach_le_two r
  have hquarter := quarter_pos r
  have hround : Rank.ofFraction n d
      = Rank.clamp (r.significand + (r.exponent + 1074).toNat * Nat.pow 2 52) := by
    refine Rank.ofFraction_eq hn hd hunit ?_ ?_ fun hodd ↦ ?_
    · rw [zpow_exponent]
      nlinarith [h.low]
    · rw [zpow_exponent]
      linarith [h.high]
    · obtain ⟨hlow, hhigh⟩ := h.inside hodd
      have htwo : reach r = 2 := by
        refine if_neg fun hfirst ↦ ?_
        rw [hfirst.1] at hodd
        exact absurd hodd (by norm_num)
      rw [htwo] at hlow
      rw [zpow_exponent]
      exact ⟨fun heq ↦ hlow (by push_cast; linarith), fun heq ↦ hhigh (by linarith)⟩
  rw [hround, ← Rank.val_eq, Rank.clamp_val]

/-- Rounding in the finer unit of the binade below. The significand has a bit too many, and is
even. -/
theorem ofFraction_eq_of_finer (h : Near r (n / d)) (hn : 0 < n) (hd : 0 < d)
    (he : -1074 < r.exponent) (hless : (n : ℚ) / d < 2 ^ (r.exponent + 52)) :
    Rank.ofFraction n d = r := by
  have hfirst := h.significand_eq he hless
  have hreach : reach r = 1 := if_pos ⟨hfirst, he.ne'⟩
  have hquarter := quarter_pos r
  have hlow := h.low
  rw [hfirst, hreach] at hlow
  push_cast [Nat.pow_eq] at hlow
  -- the fraction lies below the power of two by less than a binade
  have hunit : max (Rank.binaryOrder n d - 52) (-1074) = r.exponent - 1 := by
    have hbelow := Rank.binaryOrder_lt hn hd hless
    have habove : r.exponent + 51 ≤ Rank.binaryOrder n d := by
      refine Rank.le_binaryOrder hn hd (le_trans ?_ hlow)
      rw [show r.exponent + 51 = r.exponent + 52 - 1 by ring, zpow_sub_one₀ (by norm_num),
        zpow_exponent_add]
      linarith
    omega
  rw [zpow_exponent_add] at hless
  have hround : Rank.ofFraction n d
      = Rank.clamp (2 * Nat.pow 2 52 + (r.exponent - 1 + 1074).toNat * Nat.pow 2 52) := by
    refine Rank.ofFraction_eq hn hd hunit ?_ ?_ fun hodd ↦ absurd hodd (by norm_num)
    · rw [zpow_exponent_sub]
      push_cast [Nat.pow_eq]
      linarith
    · rw [zpow_exponent_sub]
      push_cast [Nat.pow_eq]
      linarith
  have hval : 2 * Nat.pow 2 52 + (r.exponent - 1 + 1074).toNat * Nat.pow 2 52 = r.val := by
    have hexponent : (r.exponent + 1074).toNat = (r.exponent - 1 + 1074).toNat + 1 := by omega
    rw [r.val_eq, hfirst, hexponent]
    ring
  rw [hround, hval, Rank.clamp_val]

theorem ofFraction_eq (h : Near r (n / d)) (hr : 0 < r.val) (hd : 0 < d) :
    Rank.ofFraction n d = r := by
  have hd' : (0 : ℚ) < d := by exact_mod_cast hd
  have hn : 0 < n := by
    have := (div_pos_iff_of_pos_right hd').mp (h.pos hr)
    exact_mod_cast this
  have hle := Rank.le_exponent r
  have horder := Rank.binaryOrder_lt hn hd h.lt_zpow
  by_cases hbottom : r.exponent = -1074
  · -- no unit is finer than that of the subnormal numbers
    exact h.ofFraction_eq_of_unit hn hd (by omega)
  have he : -1074 < r.exponent := by omega
  by_cases hless : (n : ℚ) / d < 2 ^ (r.exponent + 52)
  · exact h.ofFraction_eq_of_finer hn hd he hless
  · have habove := Rank.le_binaryOrder hn hd (not_lt.mp hless)
    exact h.ofFraction_eq_of_unit hn hd (by omega)

end Near

/-! ## The search comes to an end -/

/-- The decimal lies in the interval. -/
def Holds (i : RoundingInterval) (d : Decimal) : Prop :=
  i.contains (d.coefficient * Nat.pow 10 d.exponent.toNat) (Nat.pow 10 (-d.exponent).toNat) = true

/-- The next grid point above a number. -/
def nextOnGrid (i : RoundingInterval) (k : Int) : Nat :=
  i.value * Nat.pow 10 (-k).toNat / (i.den * Nat.pow 10 k.toNat) + 1

/-- A grid has no hit only if the next point above the number is none; every hit lies in the
interval. -/
theorem gridPoint_cases (i : RoundingInterval) (tie : Tie) (k : Int) :
    (i.gridPoint tie k = none ∧ ¬i.Holds ⟨i.nextOnGrid k, k⟩) ∨
      ∃ c, i.gridPoint tie k = some c ∧ i.Holds ⟨c, k⟩ := by
  unfold gridPoint nextOnGrid Holds
  dsimp only
  generalize i.value * Nat.pow 10 (-k).toNat / (i.den * Nat.pow 10 k.toNat) = floor
  cases hlower : i.contains (floor * Nat.pow 10 k.toNat) (Nat.pow 10 (-k).toNat) with
  | false =>
    cases hupper : i.contains ((floor + 1) * Nat.pow 10 k.toNat) (Nat.pow 10 (-k).toNat) with
    | false => exact .inl ⟨rfl, Bool.false_ne_true⟩
    | true => exact .inr ⟨floor + 1, rfl, hupper⟩
  | true =>
    cases hupper : i.contains ((floor + 1) * Nat.pow 10 k.toNat) (Nat.pow 10 (-k).toNat) with
    | false => exact .inr ⟨floor, rfl, hlower⟩
    | true =>
      refine .inr ?_
      dsimp only
      -- both points are hits, and the nearer one is taken
      split
      · exact ⟨floor, rfl, hlower⟩
      split
      · exact ⟨floor + 1, rfl, hupper⟩
      cases tie with
      | even =>
        refine ⟨floor + floor % 2, rfl, ?_⟩
        obtain heven | hodd : floor % 2 = 0 ∨ floor % 2 = 1 := by omega
        · rwa [heven]
        · rwa [hodd]
      | up => exact ⟨floor + 1, rfl, hupper⟩

theorem exists_gridPoint_of_holds_next {i : RoundingInterval} (tie : Tie) {k : Int}
    (h : i.Holds ⟨i.nextOnGrid k, k⟩) : ∃ c, i.gridPoint tie k = some c := by
  obtain ⟨-, hnot⟩ | ⟨c, hc, -⟩ := i.gridPoint_cases tie k
  · exact absurd h hnot
  · exact ⟨c, hc⟩

theorem holds_search {i : RoundingInterval} {tie : Tie} {grids j : Nat} {k : Int}
    (hj : j < grids) (hhit : ∃ c, i.gridPoint tie (k - j) = some c) :
    i.Holds (i.search tie grids k) := by
  induction grids generalizing k j with
  | zero => omega
  | succ grids ih =>
    unfold search
    obtain ⟨hnone, -⟩ | ⟨c, hc, hholds⟩ := i.gridPoint_cases tie k
    · rw [hnone]
      cases j with
      | zero =>
        obtain ⟨c, hc⟩ := hhit
        rw [Nat.cast_zero, sub_zero, hnone] at hc
        cases hc
      | succ j =>
        refine ih (Nat.lt_of_succ_lt_succ hj) ?_
        rwa [Nat.cast_succ, add_comm, ← sub_sub] at hhit
    · rw [hc]
      exact hholds

theorem next_gridPoint {i : RoundingInterval} (hi : 0 < i.den) (k : Int) :
    let next : ℚ := (i.nextOnGrid k * Nat.pow 10 k.toNat : Nat) / (Nat.pow 10 (-k).toNat : Nat)
    (i.value : ℚ) / i.den < next ∧ next ≤ i.value / i.den + 10 ^ k := by
  intro next
  have hi' : (0 : ℚ) < i.den := by exact_mod_cast hi
  have hstep : 0 < i.den * Nat.pow 10 k.toNat := Nat.mul_pos hi (Nat.pow_pos (by norm_num))
  have hfloor := Nat.div_mul_le_self (i.value * Nat.pow 10 (-k).toNat)
    (i.den * Nat.pow 10 k.toNat)
  have hnext := Nat.lt_mul_div_succ (i.value * Nat.pow 10 (-k).toNat) hstep
  have hpower : (0 : ℚ) < (10 : ℚ) ^ (-k).toNat := by positivity
  dsimp only [next]
  unfold nextOnGrid
  generalize i.value * Nat.pow 10 (-k).toNat / (i.den * Nat.pow 10 k.toNat) = floor at *
  rw [← pow_toNat_div_pow_toNat 10 k]
  push_cast [Nat.pow_eq]
  constructor
  · rw [div_lt_div_iff₀ hi' hpower]
    have : (i.value * 10 ^ (-k).toNat : ℚ) < i.den * 10 ^ k.toNat * (floor + 1) := by
      exact_mod_cast hnext
    linarith
  · rw [add_mul, one_mul, add_div, add_le_add_iff_right, div_le_div_iff₀ hpower hi']
    have : (floor * (i.den * 10 ^ k.toNat) : ℚ) ≤ i.value * 10 ^ (-k).toNat := by
      exact_mod_cast hfloor
    linarith

/-- On a grid finer than the distance to the upper end, the next point above the double is a hit. -/
theorem exists_gridPoint {r : Rank} (hr : 0 < r.val) (tie : Tie) {k : Int}
    (hfine : (10 : ℚ) ^ k < 2 ^ (r.exponent - 1)) :
    ∃ c, (ofRank r).gridPoint tie k = some c := by
  have hreach : (1 : ℚ) ≤ reach r := by exact_mod_cast one_le_reach r
  have hquarter := quarter_pos r
  rw [zpow_exponent_sub] at hfine
  obtain ⟨habove, hbelow⟩ := next_gridPoint (den_ofRank_pos r) k
  rw [value_ofRank, zpow_exponent] at habove hbelow
  have hlow : (4 * r.significand - reach r) * (2 : ℚ) ^ (r.exponent - 2)
      < ((ofRank r).nextOnGrid k * Nat.pow 10 k.toNat : Nat) / (Nat.pow 10 (-k).toNat : Nat) := by
    nlinarith
  have hhigh : ((ofRank r).nextOnGrid k * Nat.pow 10 k.toNat : Nat) / (Nat.pow 10 (-k).toNat : Nat)
      < (4 * r.significand + 2) * (2 : ℚ) ^ (r.exponent - 2) := by
    linarith
  refine exists_gridPoint_of_holds_next tie ((contains_iff (den_ofRank_pos r) ?_).mpr ?_)
  · exact Nat.pow_pos (by norm_num)
  · rw [low_ofRank hr, high_ofRank]
    exact ⟨⟨hlow.le, hhigh.le⟩, fun _ ↦ ⟨hlow.ne, hhigh.ne⟩⟩

theorem binaryOrder_ofRank {r : Rank} (hr : 0 < r.val) :
    r.exponent ≤ Rank.binaryOrder (ofRank r).value (ofRank r).den ∧
      Rank.binaryOrder (ofRank r).value (ofRank r).den ≤ r.exponent + 52 := by
  have hsignificand : (1 : ℚ) ≤ r.significand := by exact_mod_cast r.significand_pos hr
  have hbits : (r.significand : ℚ) < 2 ^ (53 : Int) := by exact_mod_cast r.significand_lt
  have hunit : (0 : ℚ) < 2 ^ r.exponent := by positivity
  have hvalue : 0 < (ofRank r).value := by
    refine Nat.mul_pos (Nat.mul_pos (by norm_num) (r.significand_pos hr)) ?_
    exact Nat.pow_pos (by norm_num)
  constructor
  · refine Rank.le_binaryOrder hvalue (den_ofRank_pos r) ?_
    rw [value_ofRank]
    exact le_mul_of_one_le_left hunit.le hsignificand
  · refine Int.lt_add_one_iff.mp (Rank.binaryOrder_lt hvalue (den_ofRank_pos r) ?_)
    rw [value_ofRank, add_assoc, add_comm r.exponent, zpow_add₀ (by norm_num)]
    exact mul_lt_mul_of_pos_right hbits hunit

theorem holds_shortest (tie : Tie) {r : Rank} (hr : 0 < r.val) (hfinite : r.val < infinityRank) :
    (ofRank r).Holds (shortest tie r) := by
  obtain ⟨hlow, hhigh⟩ := binaryOrder_ofRank hr
  have hbottom := r.le_exponent
  have htop := Rank.exponent_le hfinite
  unfold shortest
  dsimp only
  generalize Rank.binaryOrder (ofRank r).value (ofRank r).den = order at *
  -- the last of the grids
  refine holds_search (j := 21) (by norm_num) (exists_gridPoint hr tie ?_)
  refine ten_zpow_lt_two_zpow (fun _ ↦ ?_) fun _ ↦ ?_
  · push_cast
    omega
  · push_cast
    omega

end RoundingInterval

/-! ## Reading back -/

theorem pow_length_digits {n : Nat} (hn : 0 < n) :
    10 ^ ((digits n).length - 1) ≤ n ∧ n < 10 ^ (digits n).length := by
  have hlength : 0 < (digits n).length := Nat.length_toDigits_pos
  refine ⟨?_, (Nat.length_toDigits_le_iff (by norm_num) hlength).mp le_rfl⟩
  by_contra hless
  obtain hone | hmore : (digits n).length = 1 ∨ 0 < (digits n).length - 1 := by omega
  · rw [hone] at hless
    omega
  · have := (Nat.length_toDigits_le_iff (by norm_num) hmore).mpr (not_le.mp hless)
    change (digits n).length ≤ _ at this
    omega

/-- The number that a decimal stands for. -/
def value (d : Decimal) : ℚ := d.coefficient * 10 ^ d.exponent

theorem cast_div_cast_eq_value (d : Decimal) :
    ((d.coefficient * Nat.pow 10 d.exponent.toNat : Nat) : ℚ)
      / (Nat.pow 10 (-d.exponent).toNat : Nat) = d.value := by
  rw [value, ← pow_toNat_div_pow_toNat 10 d.exponent]
  push_cast [Nat.pow_eq]
  exact mul_div_assoc _ _ _

theorem zpow_order {d : Decimal} (hd : 0 < d.coefficient) :
    (10 : ℚ) ^ ((digits d.coefficient).length + d.exponent - 1) ≤ d.value ∧
      d.value < 10 ^ ((digits d.coefficient).length + d.exponent) := by
  obtain ⟨hlow, hhigh⟩ := pow_length_digits hd
  have hlength : 0 < (digits d.coefficient).length := Nat.length_toDigits_pos
  have hunit : (0 : ℚ) < 10 ^ d.exponent := by positivity
  constructor
  · have hsplit : (digits d.coefficient).length + d.exponent - 1
        = ((digits d.coefficient).length - 1 : Nat) + d.exponent := by omega
    rw [hsplit, zpow_add₀ (by norm_num), zpow_natCast]
    exact mul_le_mul_of_nonneg_right (by exact_mod_cast hlow) hunit.le
  · rw [zpow_add₀ (by norm_num), zpow_natCast]
    exact mul_lt_mul_of_pos_right (by exact_mod_cast hhigh) hunit

/-- Every decimal in the rounding interval of a double is rounded to it. The bounds on the order,
beyond which no power of ten is computed, are never met. -/
theorem toRank_of_near {d : Decimal} {r : Rank} (hr : 0 < r.val) (hfinite : r.val < infinityRank)
    (h : RoundingInterval.Near r d.value) : d.toRank = r := by
  have hcoefficient : 0 < d.coefficient := by
    have hpos := h.pos hr
    by_contra hzero
    rw [value, Nat.eq_zero_of_not_pos hzero, Nat.cast_zero, zero_mul] at hpos
    exact lt_irrefl _ hpos
  obtain ⟨hlow, hhigh⟩ := zpow_order hcoefficient
  have hbelow : ¬310 < (digits d.coefficient).length + d.exponent := by
    intro hgreat
    have htop := Rank.exponent_le hfinite
    have hpowers : (10 : ℚ) ^ (310 : Int) < 2 ^ (1024 : Int) :=
      calc (10 : ℚ) ^ (310 : Int)
          ≤ 10 ^ ((digits d.coefficient).length + d.exponent - 1) :=
            zpow_le_zpow_right₀ (by norm_num) (by omega)
        _ ≤ d.value := hlow
        _ < 2 ^ (r.exponent + 53) := h.lt_zpow
        _ ≤ 2 ^ (1024 : Int) := zpow_le_zpow_right₀ (by norm_num) (by omega)
    have hcast : 10 ^ 310 < 2 ^ 1024 := by exact_mod_cast hpowers
    exact absurd hcast (by decide +kernel)
  have habove : ¬(digits d.coefficient).length + d.exponent < -330 := by
    intro hsmall
    refine lt_irrefl (10 ^ (-331 : Int) : ℚ) ?_
    calc (10 : ℚ) ^ (-331 : Int) < 2 ^ (-1075 : Int) :=
          ten_zpow_lt_two_zpow (fun h ↦ by omega) fun _ ↦ by omega
      _ ≤ d.value := h.zpow_le hr
      _ ≤ 10 ^ ((digits d.coefficient).length + d.exponent) := hhigh.le
      _ ≤ 10 ^ (-331 : Int) := zpow_le_zpow_right₀ (by norm_num) (by omega)
  unfold toRank
  dsimp only
  rw [if_neg hcoefficient.ne', if_neg hbelow, if_neg habove]
  rw [← cast_div_cast_eq_value] at h
  exact h.ofFraction_eq hr (Nat.pow_pos (by norm_num))

theorem near_shortest (tie : Tie) {r : Rank} (hr : 0 < r.val) (hfinite : r.val < infinityRank) :
    RoundingInterval.Near r (shortest tie r).value := by
  rw [← cast_div_cast_eq_value]
  exact RoundingInterval.near_of_contains hr (Nat.pow_pos (by norm_num))
    (RoundingInterval.holds_shortest tie hr hfinite)

/-- **The shortest decimal of a double is rounded to it**, and so is every decimal of the same
value. -/
theorem toRank_of_value_eq_shortest (tie : Tie) {r : Rank} (hr : 0 < r.val)
    (hfinite : r.val < infinityRank) {d : Decimal} (h : d.value = (shortest tie r).value) :
    d.toRank = r := by
  refine toRank_of_near hr hfinite ?_
  rw [h]
  exact near_shortest tie hr hfinite

end RunQuery.Decimal

import RunQuery.Filter.Comparison
import RunQuery.Proofs.Decimal.Layout

/-!
# Equal values and equal texts

A filter compares values, and a group is made by their texts. A number is read back from its text,
so values of one text are equal to a filter, whatever they are, with one exception: not-a-number is
not equal to itself, nor to its word.

The other way, values may be equal to a filter and have two texts: texts that write one number in
two ways or stand beside it, and lists and objects in which a zero has either sign.
-/

namespace RunQuery.Value

open Unicode (isWhiteSpace)

/-! ## Numbers are read back -/

theorem isWhiteSpace_of_isNumeral {c : Char} (h : Decimal.Layout.isNumeral c = true) :
    isWhiteSpace c = false := by
  simp only [Decimal.Layout.isNumeral, Bool.or_eq_true, beq_iff_eq] at h
  obtain (((hdigit | rfl) | rfl) | rfl) | rfl := h
  · rw [Decimal.isDigit, Bool.and_eq_true, decide_eq_true_eq, decide_eq_true_eq] at hdigit
    have hlow : 48 ≤ c.toNat := hdigit.1
    have hhigh : c.toNat ≤ 57 := hdigit.2
    change Unicode.whiteSpaceRanges.holds c.toNat = false
    simp only [Unicode.whiteSpaceRanges, Unicode.Ranges.holds]
    simp
    omega
  all_goals decide

theorem dropWhile_isWhiteSpace {chars : List Char} (h : ∀ c ∈ chars, isWhiteSpace c = false) :
    chars.dropWhile isWhiteSpace = chars := by
  cases chars with
  | nil => rfl
  | cons c chars => exact List.dropWhile_cons_of_neg (by simp [h c])

theorem trim_eq_self {text : String} (h : ∀ c ∈ text.toList, isWhiteSpace c = false) :
    Text.trim text = text := by
  have hreverse : ∀ c ∈ text.toList.reverse, isWhiteSpace c = false :=
    fun c hc ↦ h c (List.mem_reverse.mp hc)
  rw [Text.trim, Text.trimChars, dropWhile_isWhiteSpace h, dropWhile_isWhiteSpace hreverse,
    List.reverse_reverse, String.ofList_toList]

/-- **The text of a number writes that number.** -/
theorem toNumber?_numberText (x : Double) : toNumber? (.string (numberText x)) = some x := by
  cases x with
  | nan => decide
  | signed negative r =>
    by_cases hinfinite : r.val = infinityRank
    · have hr : r = Rank.infinity := Fin.ext hinfinite
      subst hr
      cases negative <;> decide
    · have hfinite : r.val < infinityRank := lt_of_le_of_ne (Nat.lt_succ_iff.mp r.isLt) hinfinite
      have htext : numberText (.signed negative r) = numberLayout.ofFinite negative r := by
        simp [numberText, NonFinite.ofDouble?, hinfinite]
      have htrim : Text.trim (numberLayout.ofFinite negative r)
          = numberLayout.ofFinite negative r :=
        trim_eq_self fun c hc ↦ isWhiteSpace_of_isNumeral
          (numberLayout.isNumeral_ofFinite negative r c hc)
      rw [htext, toNumber?, htrim, Decimal.read?_ofFinite numberLayout negative hfinite]

/-! ## Where the two notions differ -/

/-- One of the values is not a number, and each of them is not a number or the word for it. -/
def AreNaN (v w : Value) : Prop :=
  (v = .number .nan ∨ w = .number .nan) ∧
    ∀ u ∈ [v, w], u = .number .nan ∨ u = .string NonFinite.nan.word

/-- The values are or write equal numbers, or are of one shape with equal numbers in it. -/
def Coincide (v w : Value) : Prop :=
  (∃ x y, toNumber? v = some x ∧ toNumber? w = some y ∧ Double.numEq x y = true) ∨
    identical v w = true

theorem toNumber?_of_eq_nan {v : Value}
    (h : v = .number .nan ∨ v = .string NonFinite.nan.word) : toNumber? v = some .nan := by
  obtain rfl | rfl := h
  · rfl
  · decide

theorem eq_null_of_isNull {v : Value} (h : v.isNull = true) : v = .null := by
  cases v with
  | null => rfl
  | bool | number | string | array | object => cases h

theorem isNull_eq_false_of_toNumber? {v : Value} {x : Double} (h : toNumber? v = some x) :
    v.isNull = false := by
  cases v with
  | null => cases h
  | bool | number | string | array | object => rfl

theorem numEq_self {x : Double} (h : x ≠ .nan) : Double.numEq x x = true := by
  cases x with
  | nan => exact absurd rfl h
  | signed negative r => exact beq_self_eq_true _

theorem number_or_string {v : Value} {x : Double} (h : toNumber? v = some x) :
    v = .number x ∨ ∃ s, v = .string s := by
  cases v with
  | number y => exact .inl (congrArg _ (Option.some.inj h))
  | string s => exact .inr ⟨s, rfl⟩
  | null => cases h
  | bool b => cases h
  | array items => cases h
  | object members => cases h

theorem eq_of_display_eq {v w : Value} {x y : Double} (hv : toNumber? v = some x)
    (hw : toNumber? w = some y) (h : display v = display w) : x = y := by
  have htext : ∀ {u z}, toNumber? u = some z → toNumber? (.string (display u)) = some z := by
    intro u z hu
    obtain rfl | ⟨s, rfl⟩ := number_or_string hu
    · exact toNumber?_numberText z
    · exact hu
  have hnumber := htext hv
  rw [h, htext hw] at hnumber
  exact (Option.some.inj hnumber).symm

/-- Of two values that are or write not-a-number, with one text, either both are texts or they are
told apart. -/
theorem identical_or_areNaN {v w : Value} (hv : toNumber? v = some .nan)
    (hw : toNumber? w = some .nan) (h : display v = display w) :
    identical v w = true ∨ AreNaN v w := by
  obtain rfl | ⟨s, rfl⟩ := number_or_string hv
  · obtain rfl | ⟨t, rfl⟩ := number_or_string hw
    · exact .inr ⟨.inl rfl, by simp⟩
    · obtain rfl : NonFinite.nan.word = t := h
      exact .inr ⟨.inl rfl, by simp⟩
  · obtain rfl | ⟨t, rfl⟩ := number_or_string hw
    · obtain rfl : s = NonFinite.nan.word := h
      exact .inr ⟨.inr rfl, by simp⟩
    · obtain rfl : s = t := h
      exact .inl (beq_self_eq_true s)

theorem equal_of_display_eq {v w : Value} (h : display v = display w) (hnan : ¬AreNaN v w) :
    equal v w = true := by
  unfold equal
  rw [Bool.or_eq_true]
  cases hv : toNumber? v with
  | none => exact .inr (beq_iff_eq.mpr h)
  | some x =>
    cases hw : toNumber? w with
    | none => exact .inr (beq_iff_eq.mpr h)
    | some y =>
      obtain rfl := eq_of_display_eq hv hw h
      by_cases hx : x = .nan
      · subst hx
        exact .inl ((identical_or_areNaN hv hw h).resolve_right hnan)
      · exact .inr (numEq_self hx)

theorem AreNaN.toNumber?_eq {v w : Value} (h : AreNaN v w) :
    toNumber? v = some .nan ∧ toNumber? w = some .nan :=
  ⟨toNumber?_of_eq_nan (h.2 v (by simp)), toNumber?_of_eq_nan (h.2 w (by simp))⟩

/-- **Equality in a filter**, by texts and numbers. -/
theorem equal_iff (v w : Value) :
    equal v w = true ↔ (display v = display w ∧ ¬AreNaN v w) ∨ Coincide v w := by
  constructor
  · intro h
    unfold equal at h
    rw [Bool.or_eq_true] at h
    obtain hidentical | h := h
    · exact .inr (.inr hidentical)
    cases hv : toNumber? v with
    | none =>
      rw [hv] at h
      refine .inl ⟨beq_iff_eq.mp h, fun hnan ↦ ?_⟩
      rw [hnan.toNumber?_eq.1] at hv
      cases hv
    | some x =>
      cases hw : toNumber? w with
      | none =>
        rw [hv, hw] at h
        refine .inl ⟨beq_iff_eq.mp h, fun hnan ↦ ?_⟩
        rw [hnan.toNumber?_eq.2] at hw
        cases hw
      | some y =>
        rw [hv, hw] at h
        exact .inr (.inl ⟨x, y, hv, hw, h⟩)
  · rintro (⟨h, hnan⟩ | ⟨x, y, hv, hw, h⟩ | hidentical)
    · exact equal_of_display_eq h hnan
    · rw [equal, hv, hw]
      exact Bool.or_eq_true_iff.mpr (.inr h)
    · rw [equal, hidentical, Bool.true_or]

/-- The other way does not hold: a number may be written in two ways. -/
example : equal (.string "1.0") (.number (Double.ofNat 1)) = true ∧
    display (.string "1.0") ≠ display (.number (Double.ofNat 1)) := by
  decide

/-! ## Values that are as their texts say -/

/-- A number that is not written elsewhere in another way, or a text that writes none: numbers other
than not-a-number and the negative zero, texts that are no numbers, truth values and null. -/
def IsPlain : Value → Prop
  | .null => True
  | .bool _ => True
  | .number x => x ≠ .nan ∧ x ≠ .signed true Rank.zero
  | .string s => toNumber? (.string s) = none
  | .array _ => False
  | .object _ => False

theorem eq_of_numEq {x y : Double} (h : Double.numEq x y = true)
    (hx : x ≠ .signed true Rank.zero) (hy : y ≠ .signed true Rank.zero) : x = y := by
  have hzero : ∀ {r : Rank}, .signed true r ≠ Double.signed true Rank.zero → 0 < r.val := by
    intro r hr
    refine Nat.pos_of_ne_zero fun hval ↦ hr ?_
    rw [show r = Rank.zero from Fin.ext hval]
  match x, y with
  | .nan, _ => cases h
  | .signed _ _, .nan => cases h
  | .signed negative r, .signed negative' r' =>
    have hplace : Double.place negative r = Double.place negative' r' := beq_iff_eq.mp h
    cases negative with
    | false =>
      cases negative' with
      | false =>
        rw [show r = r' from Fin.ext (Int.ofNat.inj hplace)]
      | true =>
        have hpos := hzero hy
        simp only [Double.place, Bool.false_eq_true, if_false, if_true] at hplace
        omega
    | true =>
      cases negative' with
      | false =>
        have hpos := hzero hx
        simp only [Double.place, Bool.false_eq_true, if_false, if_true] at hplace
        omega
      | true =>
        rw [show r = r' from Fin.ext (Int.ofNat.inj (neg_injective hplace))]

theorem IsPlain.eq_number {v : Value} {x : Double} (h : IsPlain v) (hx : toNumber? v = some x) :
    v = .number x := by
  obtain rfl | ⟨s, rfl⟩ := number_or_string hx
  · rfl
  · rw [show toNumber? (.string s) = none from h] at hx
    cases hx

/-- Plain values that are equal to a filter have one text. -/
theorem IsPlain.display_eq_of_coincide {v w : Value} (hv : IsPlain v) (hw : IsPlain w)
    (h : Coincide v w) : display v = display w := by
  obtain ⟨x, y, hx, hy, hnumber⟩ | hidentical := h
  · obtain rfl := hv.eq_number hx
    obtain rfl := hw.eq_number hy
    rw [eq_of_numEq hnumber hv.2 hw.2]
  · cases v with
    | null =>
      cases w with
      | null => rfl
      | bool | number | string | array | object => cases hidentical
    | bool b =>
      cases w with
      | bool b' => rw [show b = b' from beq_iff_eq.mp hidentical]
      | null | number | string | array | object => cases hidentical
    | number x =>
      cases w with
      | number y => rw [show x = y from eq_of_numEq hidentical hv.2 hw.2]
      | null | bool | string | array | object => cases hidentical
    | string s =>
      cases w with
      | string t => rw [show s = t from beq_iff_eq.mp hidentical]
      | null | bool | number | array | object => cases hidentical
    | array items => cases hv
    | object members => cases hv

theorem IsPlain.not_areNaN {v w : Value} (hv : IsPlain v) (hw : IsPlain w) : ¬AreNaN v w := by
  rintro ⟨rfl | rfl, -⟩
  · exact hv.1 rfl
  · exact hw.1 rfl

end RunQuery.Value

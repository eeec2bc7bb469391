import RunQuery.Decimal.Layout
import RunQuery.Decimal.Reader
import RunQuery.Proofs.Decimal.Shortest

/-!
# Written numbers read back

A finite double is read back from its text, in every layout. The reader need not find the decimal
that was written: a whole number in positional notation may have zeros that stand for an exponent,
and a mark of its own. What it finds has the same value, and so the same nearest double.
-/

namespace RunQuery.Decimal

/-! ## Runs of digits -/

theorem ofDigits_append (ds es : List Char) :
    ofDigits (ds ++ es) = ofDigits ds * 10 ^ es.length + ofDigits es := by
  change Nat.ofDigitChars 10 (ds ++ es) 0 = _
  rw [Nat.ofDigitChars_append, Nat.ofDigitChars_eq_ofDigitChars_zero, mul_comm]
  rfl

@[simp] theorem ofDigits_digits (n : Nat) : ofDigits (digits n) = n := Nat.ofDigitChars_ten_toDigits

@[simp] theorem digits_ne_nil (n : Nat) : digits n ≠ [] := Nat.toDigits_ne_nil

@[simp] theorem ofDigits_zeros (n : Nat) : ofDigits (List.replicate n '0') = 0 := by
  change Nat.ofDigitChars 10 (List.replicate n '0') 0 = 0
  rw [Nat.ofDigitChars_replicate_zero, mul_zero]

theorem isDigit_of_mem_digits {n : Nat} {c : Char} (h : c ∈ digits n) : isDigit c = true :=
  Nat.isDigit_of_mem_toDigits (by norm_num) (by norm_num) h

theorem isDigit_of_mem_zeros {n : Nat} {c : Char} (h : c ∈ List.replicate n '0') :
    isDigit c = true := by
  rw [(List.mem_replicate.mp h).2]
  decide

theorem isDigit_of_mem_zero {c : Char} (h : c ∈ ['0']) : isDigit c = true :=
  isDigit_of_mem_zeros (n := 1) h

/-! ## Unsigned numbers -/

variable {whole fraction rest : List Char}

theorem takeWhile_digits (hwhole : ∀ c ∈ whole, isDigit c = true)
    (hrest : ∀ c ∈ rest.head?, isDigit c = false) : (whole ++ rest).takeWhile isDigit = whole := by
  rw [List.takeWhile_append_of_pos hwhole]
  cases rest with
  | nil => simp
  | cons c rest => simp [hrest c rfl]

theorem dropWhile_digits (hwhole : ∀ c ∈ whole, isDigit c = true)
    (hrest : ∀ c ∈ rest.head?, isDigit c = false) : (whole ++ rest).dropWhile isDigit = rest := by
  rw [List.dropWhile_append_of_pos hwhole]
  cases rest with
  | nil => rfl
  | cons c rest => simp [hrest c rfl]

theorem readUnsigned_whole (hwhole : ∀ c ∈ whole, isDigit c = true) (hne : whole ≠ [])
    (hrest : ∀ c ∈ rest.head?, isDigit c = false ∧ c ≠ '.') :
    readUnsigned (whole ++ rest)
      = (readScale rest).map fun scale ↦ ⟨ofDigits whole, scale⟩ := by
  have hend : ∀ c ∈ rest.head?, isDigit c = false := fun c hc ↦ (hrest c hc).1
  unfold readUnsigned
  dsimp only
  rw [takeWhile_digits hwhole hend, dropWhile_digits hwhole hend]
  split
  · exact absurd rfl (hrest '.' rfl).2
  · simp [hne]

theorem readUnsigned_point (hwhole : ∀ c ∈ whole, isDigit c = true) (hne : whole ≠ [])
    (hfraction : ∀ c ∈ fraction, isDigit c = true)
    (hrest : ∀ c ∈ rest.head?, isDigit c = false) :
    readUnsigned (whole ++ '.' :: (fraction ++ rest))
      = (readScale rest).map fun scale ↦
          ⟨ofDigits (whole ++ fraction), scale - fraction.length⟩ := by
  have hpoint : ∀ c ∈ ('.' :: (fraction ++ rest)).head?, isDigit c = false := by
    intro c hc
    obtain rfl := Option.some.inj hc
    decide
  unfold readUnsigned
  dsimp only
  rw [takeWhile_digits hwhole hpoint, dropWhile_digits hwhole hpoint]
  simp [takeWhile_digits hfraction hrest, dropWhile_digits hfraction hrest, hne]

theorem readUnsigned_digits (hwhole : ∀ c ∈ whole, isDigit c = true) (hne : whole ≠ []) :
    readUnsigned whole = some ⟨ofDigits whole, 0⟩ := by
  have hread : readUnsigned (whole ++ []) = _ := readUnsigned_whole hwhole hne (by simp)
  rwa [List.append_nil] at hread

theorem readUnsigned_digits_point (hwhole : ∀ c ∈ whole, isDigit c = true) (hne : whole ≠ [])
    (hfraction : ∀ c ∈ fraction, isDigit c = true) :
    readUnsigned (whole ++ '.' :: fraction)
      = some ⟨ofDigits (whole ++ fraction), -fraction.length⟩ := by
  have hread : readUnsigned (whole ++ '.' :: (fraction ++ [])) = _ :=
    readUnsigned_point hwhole hne hfraction (by simp)
  rw [List.append_nil] at hread
  rw [hread, ← zero_sub]
  rfl

/-- Is the text read as an unsigned number of that value? -/
def Denotes (text : List Char) (q : ℚ) : Prop := ∃ d, readUnsigned text = some d ∧ d.value = q

/-! ## Layouts -/

namespace Layout

variable (l : Layout) {ds : List Char}

/-- Digits behind the point, after zeros. -/
theorem denotes_positional_of_nonpos (hds : ∀ c ∈ ds, isDigit c = true) {whole : Int}
    (hsmall : whole ≤ 0) :
    Denotes (l.positional ds whole) (ofDigits ds * 10 ^ (whole - ds.length)) := by
  have hfraction : ∀ c ∈ List.replicate (-whole).toNat '0' ++ ds, isDigit c = true := by
    intro c hc
    exact (List.mem_append.mp hc).elim isDigit_of_mem_zeros (hds c)
  have hexponent : -((List.replicate (-whole).toNat '0' ++ ds).length : Int)
      = whole - ds.length := by
    rw [List.length_append, List.length_replicate]
    omega
  have hcoefficient : ofDigits (['0'] ++ (List.replicate (-whole).toNat '0' ++ ds))
      = ofDigits ds := by
    rw [ofDigits_append, ofDigits_append, ofDigits_zeros]
    change 0 * _ + (0 * _ + _) = _
    omega
  rw [positional, if_pos hsmall]
  refine ⟨_, readUnsigned_digits_point (fun _ ↦ isDigit_of_mem_zero) (by decide) hfraction, ?_⟩
  rw [value, hexponent, hcoefficient]

/-- The point between the digits. -/
theorem denotes_positional_of_lt (hds : ∀ c ∈ ds, isDigit c = true) (hne : ds ≠ [])
    {whole : Int} (hpos : 0 < whole) (hlong : whole.toNat < ds.length) :
    Denotes (l.positional ds whole) (ofDigits ds * 10 ^ (whole - ds.length)) := by
  have hfraction : ds.drop whole.toNat ≠ [] := by
    rw [ne_eq, List.drop_eq_nil_iff]
    omega
  have hwhole : ds.take whole.toNat ≠ [] := by
    rw [ne_eq, List.take_eq_nil_iff]
    rintro (hzero | hnil)
    · omega
    · exact hne hnil
  have hexponent : -((ds.drop whole.toNat).length : Int) = whole - ds.length := by
    rw [List.length_drop]
    omega
  rw [positional, if_neg (not_le.mpr hpos)]
  dsimp only
  rw [if_neg (by simpa using hfraction), Nat.sub_eq_zero_of_le hlong.le, List.replicate_zero,
    List.append_nil]
  refine ⟨_, readUnsigned_digits_point (fun c hc ↦ hds c (List.mem_of_mem_take hc)) hwhole
    fun c hc ↦ hds c (List.mem_of_mem_drop hc), ?_⟩
  rw [value, hexponent, List.take_append_drop]

/-- Zeros after the digits, which stand for an exponent, and perhaps the mark of a whole number. -/
theorem denotes_positional_of_length_le (hds : ∀ c ∈ ds, isDigit c = true)
    (hne : ds ≠ []) {whole : Int} (hpos : 0 < whole) (hshort : ds.length ≤ whole.toNat) :
    Denotes (l.positional ds whole) (ofDigits ds * 10 ^ (whole - ds.length)) := by
  have hzeros : (whole - ds.length : Int) = (whole.toNat - ds.length : Nat) := by omega
  rw [positional, if_neg (not_le.mpr hpos)]
  dsimp only
  rw [if_pos (by simpa using hshort), List.take_of_length_le hshort, hzeros, zpow_natCast]
  generalize whole.toNat - ds.length = n
  have hinteger : ∀ c ∈ ds ++ List.replicate n '0', isDigit c = true := by
    intro c hc
    exact (List.mem_append.mp hc).elim (hds c) isDigit_of_mem_zeros
  have hnonempty : ds ++ List.replicate n '0' ≠ [] := by simp [hne]
  have hcoefficient : ofDigits (ds ++ List.replicate n '0') = ofDigits ds * 10 ^ n := by
    simp [ofDigits_append]
  by_cases hmark : l.wholeMark
  · rw [if_pos hmark]
    refine ⟨_, readUnsigned_digits_point hinteger hnonempty fun _ ↦ isDigit_of_mem_zero, ?_⟩
    rw [value, ofDigits_append, hcoefficient]
    change ((ofDigits ds * 10 ^ n * 10 ^ 1 + 0 : Nat) : ℚ) * 10 ^ (-1 : Int) = _
    push_cast
    rw [zpow_neg_one]
    ring
  · rw [if_neg hmark]
    refine ⟨_, readUnsigned_digits hinteger hnonempty, ?_⟩
    rw [value, hcoefficient, zpow_zero, mul_one]
    push_cast
    rfl

/-- Digits in positional notation are read with the value that the place of the point gives. -/
theorem denotes_positional (hds : ∀ c ∈ ds, isDigit c = true) (hne : ds ≠ [])
    (whole : Int) :
    Denotes (l.positional ds whole) (ofDigits ds * 10 ^ (whole - ds.length)) := by
  rcases le_or_gt whole 0 with hsmall | hpos
  · exact l.denotes_positional_of_nonpos hds hsmall
  · rcases lt_or_ge whole.toNat ds.length with hlong | hshort
    · exact l.denotes_positional_of_lt hds hne hpos hlong
    · exact l.denotes_positional_of_length_le hds hne hpos hshort

theorem readScale_exponent (order : Int) :
    readScale ('e' :: (if order < 0 then '-' else '+') :: digits order.natAbs) = some order := by
  have hne : (digits order.natAbs).isEmpty = false := by simp
  have hall : (digits order.natAbs).all isDigit = true :=
    List.all_eq_true.mpr fun c hc ↦ isDigit_of_mem_digits hc
  change readExponent _ = _
  unfold readExponent
  by_cases hneg : order < 0
  · rw [if_pos hneg]
    simp only [splitSign, hne, hall, ofDigits_digits]
    change some (-(order.natAbs : Int)) = some order
    congr 1
    omega
  · rw [if_neg hneg]
    simp only [splitSign, hne, hall, ofDigits_digits]
    change some (order.natAbs : Int) = some order
    congr 1
    omega

/-- Digits with an exponent are read with the value that the exponent of the first one gives. -/
theorem denotes_scientific (hds : ∀ c ∈ ds, isDigit c = true) (hne : ds ≠ [])
    (order : Int) :
    Denotes (scientific ds order) (ofDigits ds * 10 ^ (order + 1 - ds.length)) := by
  have hend : ∀ c ∈ List.head?
      ('e' :: (if order < 0 then '-' else '+') :: digits order.natAbs),
      isDigit c = false ∧ c ≠ '.' := by
    intro c hc
    obtain rfl := Option.some.inj hc
    decide
  match ds, hne with
  | [first], _ =>
    refine ⟨⟨ofDigits [first], order⟩, ?_, ?_⟩
    · unfold scientific
      dsimp only
      rw [readUnsigned_whole hds (by simp) hend, readScale_exponent]
      rfl
    · rw [value, List.length_singleton, Nat.cast_one, add_sub_cancel_right]
  | first :: second :: others, _ =>
    obtain ⟨hfirst, hothers⟩ := List.forall_mem_cons.mp hds
    refine ⟨⟨ofDigits (first :: second :: others), order - (second :: others).length⟩, ?_, ?_⟩
    · have hsingle : ∀ c ∈ [first], isDigit c = true := by simpa using hfirst
      have hread := readUnsigned_point hsingle (by simp) hothers fun c hc ↦ (hend c hc).1
      rw [readScale_exponent] at hread
      exact hread
    · have hexponent : order - ((second :: others).length : Int)
          = order + 1 - (first :: second :: others).length := by
        rw [List.length_cons (a := first)]
        push_cast
        ring
      rw [value, hexponent]

theorem denotes_ofDecimal (d : Decimal) : Denotes (l.ofDecimal d) d.value := by
  have hdigits : ∀ c ∈ digits d.coefficient, isDigit c = true := fun c hc ↦ isDigit_of_mem_digits hc
  have hne := digits_ne_nil d.coefficient
  have hvalue : d.value = ofDigits (digits d.coefficient) * 10 ^ d.exponent := by
    rw [value, ofDigits_digits]
  unfold ofDecimal
  dsimp only
  split
  · have hread := l.denotes_positional hdigits hne (d.exponent + (digits d.coefficient).length)
    rw [add_sub_cancel_right, ← hvalue] at hread
    rwa [sub_add_cancel]
  · have hread := denotes_scientific hdigits hne
      (d.exponent + (digits d.coefficient).length - 1)
    rwa [sub_add_cancel, add_sub_cancel_right, ← hvalue] at hread

/-! ### Characters -/

/-- Is this a character of written numbers? -/
def isNumeral (c : Char) : Bool := isDigit c || c == '.' || c == 'e' || c == '+' || c == '-'

theorem isNumeral_of_isDigit {c : Char} (h : isDigit c = true) : isNumeral c = true := by
  rw [isNumeral, h]
  rfl

theorem isNumeral_positional (hds : ∀ c ∈ ds, isDigit c = true) (whole : Int) :
    ∀ c ∈ l.positional ds whole, isNumeral c = true := by
  have hdigits : ∀ c ∈ ds, isNumeral c = true := fun c hc ↦ isNumeral_of_isDigit (hds c hc)
  have hzeros : ∀ n, ∀ c ∈ List.replicate n '0', isNumeral c = true :=
    fun _ _ hc ↦ isNumeral_of_isDigit (isDigit_of_mem_zeros hc)
  have hzero : ∀ c ∈ ['0'], isNumeral c = true := hzeros 1
  have hinteger : ∀ m n, ∀ c ∈ ds.take m ++ List.replicate n '0', isNumeral c = true := by
    intro m n
    rw [List.forall_mem_append]
    exact ⟨fun c hc ↦ hdigits c (List.mem_of_mem_take hc), hzeros n⟩
  unfold positional
  dsimp only
  split
  · rw [List.forall_mem_cons, List.forall_mem_cons, List.forall_mem_append]
    exact ⟨by decide, by decide, hzeros _, hdigits⟩
  split
  · split
    · rw [List.forall_mem_append]
      exact ⟨hinteger _ _, List.forall_mem_cons.mpr ⟨by decide, hzero⟩⟩
    · exact hinteger _ _
  · rw [List.forall_mem_append, List.forall_mem_cons]
    exact ⟨hinteger _ _, by decide, fun c hc ↦ hdigits c (List.mem_of_mem_drop hc)⟩

theorem isNumeral_scientific (hds : ∀ c ∈ ds, isDigit c = true) (order : Int) :
    ∀ c ∈ scientific ds order, isNumeral c = true := by
  have hdigits : ∀ c ∈ ds, isNumeral c = true := fun c hc ↦ isNumeral_of_isDigit (hds c hc)
  have hexponent : ∀ c ∈ digits order.natAbs, isNumeral c = true :=
    fun c hc ↦ isNumeral_of_isDigit (isDigit_of_mem_digits hc)
  unfold scientific
  dsimp only
  rw [List.forall_mem_append, List.forall_mem_cons, List.forall_mem_cons]
  refine ⟨?_, by decide, by split <;> decide, hexponent⟩
  match ds with
  | [] => simp
  | [first] => exact hdigits
  | first :: second :: others =>
    obtain ⟨hfirst, hothers⟩ := List.forall_mem_cons.mp hdigits
    exact List.forall_mem_cons.mpr ⟨hfirst, List.forall_mem_cons.mpr ⟨by decide, hothers⟩⟩

theorem isNumeral_ofFinite (negative : Bool) (r : Rank) :
    ∀ c ∈ (l.ofFinite negative r).toList, isNumeral c = true := by
  have hdigits : ∀ n, ∀ c ∈ digits n, isDigit c = true := fun _ _ hc ↦ isDigit_of_mem_digits hc
  have hmagnitude : ∀ c ∈ (if r.val = 0 then (if l.wholeMark then ['0', '.', '0'] else ['0'])
      else l.ofDecimal (shortest l.tie r)), isNumeral c = true := by
    split
    · have hzero : ∀ c ∈ ['0'], isNumeral c = true :=
        fun _ hc ↦ isNumeral_of_isDigit (isDigit_of_mem_zero hc)
      split
      · exact List.forall_mem_cons.mpr
          ⟨by decide, List.forall_mem_cons.mpr ⟨by decide, hzero⟩⟩
      · exact hzero
    · unfold ofDecimal
      dsimp only
      split
      · exact l.isNumeral_positional (hdigits _) _
      · exact isNumeral_scientific (hdigits _) _
  unfold ofFinite
  dsimp only
  rw [String.toList_ofList]
  split
  · exact List.forall_mem_cons.mpr ⟨by decide, hmagnitude⟩
  · exact hmagnitude

end Layout

/-! ## Whole texts -/

theorem exists_cons_of_readUnsigned {text : List Char} {d : Decimal}
    (h : readUnsigned text = some d) :
    ∃ c rest, text = c :: rest ∧ (isDigit c = true ∨ c = '.') := by
  cases text with
  | nil => cases h
  | cons c rest =>
    refine ⟨c, rest, rfl, ?_⟩
    by_contra hneither
    obtain ⟨hdigit, hpoint⟩ := not_or.mp hneither
    unfold readUnsigned at h
    simp [hdigit, hpoint] at h

theorem lowerAscii_eq_self {c : Char} (h : isDigit c = true ∨ c = '.') : lowerAscii c = c := by
  refine if_neg fun hupper ↦ ?_
  rw [Bool.and_eq_true, decide_eq_true_eq, decide_eq_true_eq] at hupper
  obtain hdigit | rfl := h
  · rw [isDigit, Bool.and_eq_true, decide_eq_true_eq, decide_eq_true_eq] at hdigit
    exact absurd (Char.le_trans hupper.1 hdigit.2) (by decide)
  · exact absurd hupper.1 (by decide)

theorem read?_of_readUnsigned {text : List Char} {d : Decimal} (h : readUnsigned text = some d)
    (negative : Bool) :
    read? (String.ofList (if negative then '-' :: text else text))
      = some (Double.signed negative d.toRank) := by
  obtain ⟨c, rest, rfl, hc⟩ := exists_cons_of_readUnsigned h
  have hsign : splitSign (if negative then '-' :: c :: rest else c :: rest)
      = (negative, c :: rest) := by
    cases negative with
    | true => rfl
    | false =>
      have hplus : c ≠ '+' := by
        rintro rfl
        exact absurd hc (by decide)
      have hminus : c ≠ '-' := by
        rintro rfl
        exact absurd hc (by decide)
      simp [splitSign, hplus, hminus]
  have hword : ∀ word ∈ ["inf", "infinity", "nan"],
      String.ofList ((c :: rest).map lowerAscii) ≠ word := by
    intro word hword hspelled
    have hfirst : word.toList.head? = some c := by
      rw [← hspelled, String.toList_ofList, List.map_cons, lowerAscii_eq_self hc]
      rfl
    have hletter : c = 'i' ∨ c = 'n' := by
      simp only [List.mem_cons, List.not_mem_nil, or_false] at hword
      obtain rfl | rfl | rfl := hword
      · exact .inl (Option.some.inj hfirst).symm
      · exact .inl (Option.some.inj hfirst).symm
      · exact .inr (Option.some.inj hfirst).symm
    obtain rfl | rfl := hletter
    · exact absurd hc (by decide)
    · exact absurd hc (by decide)
  unfold read?
  rw [String.toList_ofList, hsign]
  dsimp only
  rw [if_neg, if_neg, h]
  · rfl
  · exact hword _ (by simp)
  · rintro (hinf | hinf)
    · exact hword _ (by simp) hinf
    · exact hword _ (by simp) hinf

/-- **A finite double is read back from its text.** -/
theorem read?_ofFinite (l : Layout) (negative : Bool) {r : Rank} (hfinite : r.val < infinityRank) :
    read? (l.ofFinite negative r) = some (Double.signed negative r) := by
  unfold Layout.ofFinite
  dsimp only
  by_cases hzero : r.val = 0
  · have hr : r = Rank.zero := Fin.ext hzero
    have hread : ∃ e, readUnsigned (if l.wholeMark then ['0', '.', '0'] else ['0'])
        = some ⟨0, e⟩ := by
      split
      · exact ⟨-1, rfl⟩
      · exact ⟨0, rfl⟩
    obtain ⟨e, hread⟩ := hread
    rw [if_pos hzero, read?_of_readUnsigned hread, hr]
    rfl
  · obtain ⟨d, hread, hvalue⟩ := l.denotes_ofDecimal (shortest l.tie r)
    rw [if_neg hzero, read?_of_readUnsigned hread,
      toRank_of_value_eq_shortest l.tie (Nat.pos_of_ne_zero hzero) hfinite hvalue]

end RunQuery.Decimal

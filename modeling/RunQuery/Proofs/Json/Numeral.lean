import RunQuery.Json.Token

/-!
# Numbers and what follows them

A number ends where the next character cannot belong to it. So whatever is done to the text that
follows does not change the number that is read, as long as it leaves the characters of numbers
alone and does not put any in front. Two such changes matter here: a text that is continued, and a
text in which some words are exchanged.
-/

namespace RunQuery.Json.Token

/-- Is this a character of written numbers? -/
def isFigure (c : Char) : Bool :=
  Decimal.isDigit c || c == '.' || c == 'e' || c == 'E' || c == '+' || c == '-'

theorem isFigure_of_isDigit {c : Char} (h : Decimal.isDigit c = true) : isFigure c = true := by
  rw [isFigure, h]
  rfl

theorem not_isDigit_of_not_isFigure {c : Char} (h : isFigure c = false) :
    Decimal.isDigit c = false := by
  cases hdigit : Decimal.isDigit c with
  | false => rfl
  | true =>
    rw [isFigure_of_isDigit hdigit] at h
    cases h

theorem head?_ne_of_not_isFigure {text : List Char} (h : ∀ c ∈ text.head?, isFigure c = false)
    {c : Char} (hc : isFigure c = true) : text.head? ≠ some c := by
  intro hhead
  rw [h c hhead] at hc
  cases hc

/-- A change of texts that goes along with the numbers in them. -/
structure Preserves (φ : List Char → List Char) : Prop where
  /-- A character of a number stays, and the text after it is changed. -/
  figure : ∀ c text, isFigure c = true → c ≠ '-' → φ (c :: text) = c :: φ text
  /-- So does a minus sign, unless it belongs to no number. -/
  minus : ∀ text, φ ('-' :: text) = '-' :: φ text ∨
    (∀ d ∈ text.head?, Decimal.isDigit d = false) ∧
      ∀ c ∈ (φ ('-' :: text)).head?, isFigure c = false
  /-- Where there is no number, none comes about. -/
  other : ∀ text, (∀ c ∈ text.head?, isFigure c = false) →
    ∀ c ∈ (φ text).head?, isFigure c = false

namespace Preserves

variable {φ : List Char → List Char} (hφ : Preserves φ)

include hφ

/-- The first character of a number was there before. -/
theorem head?_eq {text : List Char} {c : Char} (h : (φ text).head? = some c)
    (hc : isFigure c = true) : text.head? = some c := by
  have hnot : ¬isFigure c = false := by
    rw [hc]
    exact nofun
  cases text with
  | nil => exact absurd (hφ.other [] (by simp) c h) hnot
  | cons d text =>
    cases hd : isFigure d with
    | false =>
      refine absurd (hφ.other (d :: text) ?_ c h) hnot
      rintro e ⟨⟩
      exact hd
    | true =>
      by_cases hminus : d = '-'
      · subst hminus
        obtain hkeep | ⟨-, hgone⟩ := hφ.minus text
        · rwa [hkeep] at h
        · exact absurd (hgone c h) hnot
      · rwa [hφ.figure d text hd hminus] at h

theorem digit (c : Char) (text : List Char) (hc : Decimal.isDigit c = true) :
    φ (c :: text) = c :: φ text := by
  refine hφ.figure c text (isFigure_of_isDigit hc) ?_
  rintro rfl
  exact absurd hc (by decide)

/-- Without a digit at the front there is none after the change. -/
theorem head?_not_isDigit {text : List Char} (h : ∀ c ∈ text.head?, Decimal.isDigit c = false) :
    ∀ c ∈ (φ text).head?, Decimal.isDigit c = false := by
  intro c hc
  cases hdigit : Decimal.isDigit c with
  | false => rfl
  | true =>
    rw [← hdigit]
    exact h c (hφ.head?_eq hc (isFigure_of_isDigit hdigit))

omit hφ in
theorem scanDigits_of_not_isDigit {text : List Char}
    (h : ∀ c ∈ text.head?, Decimal.isDigit c = false) : scanDigits text = ([], text) := by
  cases text with
  | nil => rfl
  | cons c text =>
    have hc := h c rfl
    simp [scanDigits, hc]

theorem scanDigits_eq (text : List Char) :
    scanDigits (φ text) = ((scanDigits text).1, φ (scanDigits text).2) := by
  induction text with
  | nil =>
    rw [scanDigits_of_not_isDigit (hφ.head?_not_isDigit (by simp))]
    rfl
  | cons c text ih =>
    cases hc : Decimal.isDigit c with
    | false =>
      have hhead : ∀ d ∈ (c :: text).head?, Decimal.isDigit d = false := by
        rintro d ⟨⟩
        exact hc
      rw [scanDigits_of_not_isDigit hhead, scanDigits_of_not_isDigit (hφ.head?_not_isDigit hhead)]
    | true =>
      simp only [scanDigits, Prod.mk.injEq] at ih
      simp [scanDigits, hφ.digit c text hc, hc, ih]

theorem scanWhole_eq (text : List Char) :
    scanWhole (φ text) = (scanWhole text).map (Prod.map id φ) := by
  rw [scanWhole, scanWhole, hφ.scanDigits_eq]
  obtain ⟨ds, rest⟩ := scanDigits text
  cases ds with
  | nil => rfl
  | cons d ds =>
    by_cases hd : d = '0'
    · subst hd
      cases ds with
      | nil => rfl
      | cons d' ds => rfl
    · simp [hd]

theorem scanFraction_eq (text : List Char) :
    scanFraction (φ text) = (scanFraction text).map (Prod.map id φ) := by
  by_cases hpoint : text.head? = some '.'
  · obtain ⟨rest, rfl⟩ := List.head?_eq_some_iff.mp hpoint
    rw [hφ.figure '.' rest (by decide) (by decide), scanFraction, scanFraction, hφ.scanDigits_eq]
    obtain ⟨ds, after⟩ := scanDigits rest
    cases ds with
    | nil => rfl
    | cons d ds => rfl
  · have hnone : ∀ t : List Char, t.head? ≠ some '.' → scanFraction t = some (none, t) := by
      intro t ht
      unfold scanFraction
      split
      · exact absurd rfl ht
      · rfl
    rw [hnone text hpoint, hnone (φ text) fun h ↦ hpoint (hφ.head?_eq h (by decide))]
    rfl

omit hφ in
theorem splitSign_of_head?_ne {text : List Char} (hplus : text.head? ≠ some '+')
    (hminus : text.head? ≠ some '-') : Decimal.splitSign text = (false, text) := by
  unfold Decimal.splitSign
  split
  · exact absurd rfl hplus
  · exact absurd rfl hminus
  · rfl

/-- The exponent that digits write, and what follows them; none where there are no digits. -/
def scaleOf (negative : Bool) (found : List Char × List Char) : Option (Int × List Char) :=
  if found.1.isEmpty then none
  else some (if negative then -(Decimal.ofDigits found.1 : Int) else Decimal.ofDigits found.1,
    found.2)

omit hφ in
theorem scanScale_eq_scaleOf (text : List Char) :
    scanScale text
      = scaleOf (Decimal.splitSign text).1 (scanDigits (Decimal.splitSign text).2) := by
  rw [scanScale]
  obtain ⟨negative, rest⟩ := Decimal.splitSign text
  dsimp only
  obtain ⟨ds, after⟩ := scanDigits rest
  cases ds with
  | nil => rfl
  | cons d ds => rfl

omit hφ in
theorem scaleOf_of_not_isDigit (negative : Bool) {text : List Char}
    (h : ∀ c ∈ text.head?, Decimal.isDigit c = false) :
    scaleOf negative (scanDigits text) = none := by
  rw [scanDigits_of_not_isDigit h]
  rfl

theorem scaleOf_scanDigits (negative : Bool) (text : List Char) :
    scaleOf negative (scanDigits (φ text))
      = (scaleOf negative (scanDigits text)).map (Prod.map id φ) := by
  rw [hφ.scanDigits_eq, scaleOf, scaleOf]
  split
  · rfl
  · rfl

theorem scanScale_eq (text : List Char) :
    scanScale (φ text) = (scanScale text).map (Prod.map id φ) := by
  rw [scanScale_eq_scaleOf, scanScale_eq_scaleOf]
  by_cases hplus : text.head? = some '+'
  · obtain ⟨rest, rfl⟩ := List.head?_eq_some_iff.mp hplus
    rw [hφ.figure '+' rest (by decide) (by decide)]
    exact hφ.scaleOf_scanDigits false rest
  by_cases hminus : text.head? = some '-'
  · obtain ⟨rest, rfl⟩ := List.head?_eq_some_iff.mp hminus
    obtain hkeep | ⟨hrest, hgone⟩ := hφ.minus rest
    · rw [hkeep]
      exact hφ.scaleOf_scanDigits true rest
    · -- a minus sign that is gone had no digit after it
      have hnone : scaleOf true (scanDigits rest) = none := scaleOf_of_not_isDigit true hrest
      rw [splitSign_of_head?_ne (head?_ne_of_not_isFigure hgone (by decide))
        (head?_ne_of_not_isFigure hgone (by decide)),
        scaleOf_of_not_isDigit false fun c hc ↦ not_isDigit_of_not_isFigure (hgone c hc)]
      exact (congrArg (Option.map (Prod.map id φ)) hnone).symm
  · rw [splitSign_of_head?_ne hplus hminus, splitSign_of_head?_ne]
    · exact hφ.scaleOf_scanDigits false text
    · exact fun h ↦ hplus (hφ.head?_eq h (by decide))
    · exact fun h ↦ hminus (hφ.head?_eq h (by decide))

theorem scanExponent_eq (text : List Char) :
    scanExponent (φ text) = (scanExponent text).map (Prod.map id φ) := by
  have hletter : ∀ rest : List Char,
      (scanScale (φ rest)).map (fun found ↦ (some found.1, found.2))
        = ((scanScale rest).map fun found ↦ (some found.1, found.2)).map (Prod.map id φ) := by
    intro rest
    rw [hφ.scanScale_eq, Option.map_map, Option.map_map]
    rfl
  by_cases hsmall : text.head? = some 'e'
  · obtain ⟨rest, rfl⟩ := List.head?_eq_some_iff.mp hsmall
    rw [hφ.figure 'e' rest (by decide) (by decide)]
    exact hletter rest
  by_cases hcapital : text.head? = some 'E'
  · obtain ⟨rest, rfl⟩ := List.head?_eq_some_iff.mp hcapital
    rw [hφ.figure 'E' rest (by decide) (by decide)]
    exact hletter rest
  · have hnone : ∀ t : List Char, t.head? ≠ some 'e' → t.head? ≠ some 'E' →
        scanExponent t = some (none, t) := by
      intro t hsmall hcapital
      unfold scanExponent
      split
      · exact absurd rfl hsmall
      · exact absurd rfl hcapital
      · rfl
    rw [hnone text hsmall hcapital, hnone (φ text)]
    · rfl
    · exact fun h ↦ hsmall (hφ.head?_eq h (by decide))
    · exact fun h ↦ hcapital (hφ.head?_eq h (by decide))

theorem scanUnsigned_eq (negative : Bool) (text : List Char) :
    scanUnsigned negative (φ text) = (scanUnsigned negative text).map (Prod.map id φ) := by
  simp only [scanUnsigned, hφ.scanWhole_eq, Option.bind_eq_bind, Option.bind_map]
  cases scanWhole text with
  | none => rfl
  | some whole =>
    simp only [Option.bind_some, Function.comp, Prod.map, hφ.scanFraction_eq, Option.bind_map]
    cases scanFraction whole.2 with
    | none => rfl
    | some fraction =>
      simp only [Option.bind_some, Function.comp, Prod.map, hφ.scanExponent_eq, Option.bind_map]
      cases scanExponent fraction.2 with
      | none => rfl
      | some exponent => rfl

omit hφ in
theorem scanUnsigned_of_not_isDigit (negative : Bool) {text : List Char}
    (h : ∀ c ∈ text.head?, Decimal.isDigit c = false) : scanUnsigned negative text = none := by
  rw [scanUnsigned, scanWhole, scanDigits_of_not_isDigit h]
  rfl

omit hφ in
theorem scanNumeral_of_head?_ne {text : List Char} (h : text.head? ≠ some '-') :
    scanNumeral text = scanUnsigned false text := by
  unfold scanNumeral
  split
  · exact absurd rfl h
  · rfl

/-- **The number at the front of a text is the same after the change.** -/
theorem scanNumeral_eq (text : List Char) :
    scanNumeral (φ text) = (scanNumeral text).map (Prod.map id φ) := by
  by_cases hminus : text.head? = some '-'
  · obtain ⟨rest, rfl⟩ := List.head?_eq_some_iff.mp hminus
    obtain hkeep | ⟨hrest, hgone⟩ := hφ.minus rest
    · rw [hkeep]
      exact hφ.scanUnsigned_eq true rest
    · have hnone : scanNumeral ('-' :: rest) = none := scanUnsigned_of_not_isDigit true hrest
      rw [hnone, scanNumeral_of_head?_ne (head?_ne_of_not_isFigure hgone (by decide)),
        scanUnsigned_of_not_isDigit false fun c hc ↦ not_isDigit_of_not_isFigure (hgone c hc)]
      rfl
  · rw [scanNumeral_of_head?_ne hminus, scanNumeral_of_head?_ne, hφ.scanUnsigned_eq]
    exact fun h ↦ hminus (hφ.head?_eq h (by decide))

end Preserves

end RunQuery.Json.Token

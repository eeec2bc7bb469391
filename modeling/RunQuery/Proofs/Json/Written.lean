import Mathlib.Data.List.TakeWhile
import RunQuery.Json.Printer
import RunQuery.Proofs.Decimal.Layout
import RunQuery.Proofs.Json.Grammar
import RunQuery.Proofs.Json.Numeral
import RunQuery.Proofs.Tree.Canonical

/-!
# Written data is read back

The text of data on one line has the tokens of the data, and so the data is read back from it. What
each token needs is that the characters after it do not belong to it, which concerns only numbers:
behind them stands a comma, a closing bracket or nothing.

Reading loses digits, so not every number is read as it was written. All whole numbers that fit are;
of the others it has to be asked for.
-/

namespace RunQuery.Json

namespace Token

/-! ## Tokens of fixed spelling -/

/-- The token of fixed spelling at the front of a text, and what follows it. -/
def scanFixed (text : List Char) : Option (Token × List Char) :=
  fixed.findSome? fun e ↦ (afterWord? e.1 text).map fun rest ↦ (e.2, rest)

theorem scan_eq (text : List Char) :
    scan text = match scanFixed text with
      | some found => some found
      | none => match text with
        | '"' :: rest => (scanString rest).map fun (s, rest) ↦ (string (String.ofList s), rest)
        | _ => (scanNumeral text).bind fun (numeral, rest) ↦
          numeral.value.bind fun n ↦ some (number n, rest) :=
  rfl

theorem scan_of_scanFixed {text : List Char} {found : Token × List Char}
    (h : scanFixed text = some found) : scan text = some found := by
  rw [scan_eq, h]

theorem scanFixed_eq_none {text : List Char} (h : ∀ e ∈ fixed, afterWord? e.1 text = none) :
    scanFixed text = none := by
  rw [scanFixed, List.findSome?_eq_none_iff]
  intro e he
  rw [h e he]
  rfl

theorem scan_of_scanFixed_eq_none {text : List Char} (h : scanFixed text = none)
    (hquote : text.head? ≠ some '"') :
    scan text = (scanNumeral text).bind fun (numeral, rest) ↦
      numeral.value.bind fun n ↦ some (number n, rest) := by
  rw [scan_eq, h]
  dsimp only
  split
  · exact absurd rfl hquote
  · rfl

theorem afterWord?_eq_none {w c : Char} (ws text : List Char) (h : w ≠ c) :
    afterWord? (w :: ws) (c :: text) = none :=
  if_neg h

/-! ## Numbers -/

theorem exists_cons_of_scanNumeral {text rest : List Char} {numeral : Numeral}
    (h : scanNumeral text = some (numeral, rest)) :
    (∃ d tail, text = d :: tail ∧ Decimal.isDigit d = true) ∨
      ∃ d tail, text = '-' :: d :: tail ∧ Decimal.isDigit d = true := by
  have hunsigned : ∀ (negative : Bool) (t : List Char),
      scanUnsigned negative t = some (numeral, rest) →
        ∃ d tail, t = d :: tail ∧ Decimal.isDigit d = true := by
    intro negative t ht
    cases t with
    | nil => cases ht
    | cons d tail =>
      refine ⟨d, tail, rfl, ?_⟩
      cases hd : Decimal.isDigit d with
      | true => rfl
      | false =>
        rw [Preserves.scanUnsigned_of_not_isDigit] at ht
        · cases ht
        · rintro c ⟨⟩
          exact hd
  unfold scanNumeral at h
  split at h
  · next tail =>
    obtain ⟨d, tail, rfl, hd⟩ := hunsigned true tail h
    exact .inr ⟨d, tail, rfl, hd⟩
  · exact .inl (hunsigned false text h)

theorem scanFixed_of_scanNumeral {text rest : List Char} {numeral : Numeral}
    (h : scanNumeral text = some (numeral, rest)) : scanFixed text = none := by
  have hdigit : ∀ e ∈ fixed, e.1.head?.any Decimal.isDigit = false := by decide
  have hminus : ∀ e ∈ fixed, e.1.head? = some '-' → e.1[1]? = some 'I' := by decide
  -- a minus sign is followed by a digit here, and by a letter in the one word that has it
  refine scanFixed_eq_none fun e he ↦ ?_
  obtain ⟨ws, t⟩ := e
  cases ws with
  | nil => exact absurd rfl (fixed_ne_nil _ he)
  | cons w ws =>
    obtain ⟨d, tail, rfl, hd⟩ | ⟨d, tail, rfl, hd⟩ := exists_cons_of_scanNumeral h
    · refine afterWord?_eq_none ws tail ?_
      rintro rfl
      have hw : Decimal.isDigit w = false := hdigit _ he
      rw [hd] at hw
      cases hw
    · by_cases hw : w = '-'
      · subst hw
        have hsecond := hminus _ he rfl
        cases ws with
        | nil => cases hsecond
        | cons w ws =>
          obtain rfl : w = 'I' := Option.some.inj hsecond
          have hne : 'I' ≠ d := by
            rintro rfl
            cases hd
          rw [afterWord?, if_pos rfl, afterWord?_eq_none ws tail hne]
      · exact afterWord?_eq_none ws _ hw

theorem scan_of_scanNumeral {text rest : List Char} {numeral : Numeral} {n : Number}
    (h : scanNumeral text = some (numeral, rest)) (hvalue : numeral.value = some n) :
    scan text = some (number n, rest) := by
  have hquote : text.head? ≠ some '"' := by
    obtain ⟨d, tail, rfl, hd⟩ | ⟨d, tail, rfl, -⟩ := exists_cons_of_scanNumeral h
    · rintro ⟨⟩
      cases hd
    · exact nofun
  rw [scan_of_scanFixed_eq_none (scanFixed_of_scanNumeral h) hquote, h]
  simp [hvalue]

theorem isBlank_iff {c : Char} : isBlank c = true ↔ c ∈ [' ', '\n', '\t', '\r'] := by
  simp [isBlank, or_assoc]

theorem scan_of_isBlank {c : Char} (rest : List Char) (h : isBlank c = true) :
    scan (c :: rest) = none := by
  have hfixed : ∀ e ∈ fixed, e.1.head?.any isBlank = false := by decide
  have hnone : scanFixed (c :: rest) = none := by
    refine scanFixed_eq_none fun e he ↦ ?_
    obtain ⟨ws, t⟩ := e
    cases ws with
    | nil => exact absurd rfl (fixed_ne_nil _ he)
    | cons w ws =>
      refine afterWord?_eq_none ws rest ?_
      rintro rfl
      have hw : isBlank w = false := hfixed _ he
      rw [hw] at h
      cases h
  have hquote : (c :: rest).head? ≠ some '"' := by
    rintro ⟨⟩
    cases h
  rw [scan_of_scanFixed_eq_none hnone hquote]
  cases hnumeral : scanNumeral (c :: rest) with
  | none => rfl
  | some found =>
    obtain ⟨d, tail, heq, hd⟩ | ⟨d, tail, heq, -⟩ := exists_cons_of_scanNumeral hnumeral
    · obtain ⟨rfl, -⟩ := List.cons.inj heq
      have hdigit : [' ', '\n', '\t', '\r'].any Decimal.isDigit = false := by decide
      exact absurd hd (List.any_eq_false.mp hdigit c (isBlank_iff.mp h))
    · obtain ⟨rfl, -⟩ := List.cons.inj heq
      cases h

theorem scanAll_of_scan {text rest : List Char} {t : Token} (h : scan text = some (t, rest)) :
    scanAll text = (scanAll rest).map (t :: ·) := by
  cases text with
  | nil => cases h
  | cons c text =>
    have hblank : isBlank c ≠ true := by
      intro hblank
      rw [scan_of_isBlank text hblank] at h
      cases h
    rw [scanAll, if_neg hblank]
    split
    · next hnone =>
      rw [h] at hnone
      cases hnone
    · next t' rest' hsome =>
      rw [h] at hsome
      cases hsome
      rfl

/-! ## Strings -/

/-- What a backslash stands for with any other character after it than `u`. -/
theorem scanString_escape {e : Char} (rest : List Char) (h : e ≠ 'u') :
    scanString ('\\' :: e :: rest) = (shortEscape? e).bind fun c ↦
      (scanString rest).map fun (s, after) ↦ (c :: s, after) := by
  rw [scanString.eq_4 e rest fun _ _ _ _ _ he ↦ absurd he h]
  cases shortEscape? e with
  | none => rfl
  | some c => rfl

theorem scanString_shortEscape {e c : Char} (rest : List Char) (h : shortEscape? e = some c) :
    scanString ('\\' :: e :: rest) = (scanString rest).map fun (s, after) ↦ (c :: s, after) := by
  rw [scanString_escape, h, Option.bind_some]
  rintro rfl
  cases h

theorem scanString_hex4 {a b c d : Char} {n : Nat} (rest : List Char) (h : hex4? a b c d = some n)
    (hlow : isLowSurrogate n = false) (hhigh : isHighSurrogate n = false) :
    scanString ('\\' :: 'u' :: a :: b :: c :: d :: rest)
      = (scanString rest).map fun (s, after) ↦ (Char.ofNat n :: s, after) := by
  rw [scanString.eq_3, h]
  simp [hlow, hhigh]

theorem scanString_cons {c : Char} (rest : List Char) (hquote : c ≠ '"') (hslash : c ≠ '\\') :
    scanString (c :: rest) = if c.toNat < 0x20 then none
      else (scanString rest).map fun (s, after) ↦ (c :: s, after) := by
  rw [scanString.eq_5 c rest hquote (fun _ _ _ _ _ h ↦ absurd h hslash)
    (fun _ _ h ↦ absurd h hslash)]
  simp only [hslash, or_false]

theorem scanString_escapeControl {c : Char} (rest : List Char) (hcontrol : c.toNat < 0x20) :
    scanString (escapeControl c ++ rest)
      = (scanString rest).map fun (s, after) ↦ (c :: s, after) := by
  have hdigits : ∀ n < 0x20,
      (List.replicate (4 - (Nat.toDigits 16 n).length) '0' ++ Nat.toDigits 16 n).length = 4 ∧
        Unicode.hexNumber? (List.replicate (4 - (Nat.toDigits 16 n).length) '0' ++
          Nat.toDigits 16 n) = some n := by
    decide
  unfold escapeControl
  split
  · exact scanString_shortEscape rest rfl
  · exact scanString_shortEscape rest rfl
  · exact scanString_shortEscape rest rfl
  · exact scanString_shortEscape rest rfl
  · exact scanString_shortEscape rest rfl
  · obtain ⟨hlength, hnumber⟩ := hdigits c.toNat hcontrol
    simp only [List.cons_append]
    generalize List.replicate (4 - (Nat.toDigits 16 c.toNat).length) '0' ++
      Nat.toDigits 16 c.toNat = ds at hlength hnumber
    match ds, hlength with
    | [d₁, d₂, d₃, d₄], _ =>
      have hsurrogate : isLowSurrogate c.toNat = false ∧ isHighSurrogate c.toNat = false := by
        simp only [isLowSurrogate, isHighSurrogate, Bool.and_eq_false_iff, decide_eq_false_iff_not]
        omega
      have hscan := scanString_hex4 rest hnumber hsurrogate.1 hsurrogate.2
      rwa [Char.ofNat_toNat] at hscan

theorem scanString_escapeChar (c : Char) (rest : List Char) :
    scanString (escapeChar c ++ rest)
      = (scanString rest).map fun (s, after) ↦ (c :: s, after) := by
  unfold escapeChar
  split_ifs with hquote hslash hcontrol
  · subst hquote
    exact scanString_shortEscape rest rfl
  · subst hslash
    exact scanString_shortEscape rest rfl
  · exact scanString_escapeControl rest hcontrol
  · exact (scanString_cons rest hquote hslash).trans (if_neg hcontrol)

theorem scan_quote (text : List Char) :
    scan ('"' :: text) = (scanString text).map fun (s, rest) ↦ (string (String.ofList s), rest) :=
  rfl

/-- A string is read back from its text. -/
@[simp] theorem scan_quoteString (s : String) (rest : List Char) :
    scan (quoteString s ++ rest) = some (string s, rest) := by
  have hchars : ∀ cs : List Char,
      scanString (cs.flatMap escapeChar ++ ['"'] ++ rest) = some (cs, rest) := by
    intro cs
    induction cs with
    | nil => rfl
    | cons c cs ih =>
      rw [List.flatMap_cons, List.append_assoc, List.append_assoc, scanString_escapeChar,
        ← List.append_assoc, ih]
      rfl
  rw [quoteString, List.cons_append, List.cons_append, scan_quote, hchars, Option.map_some]
  exact congrArg (fun s ↦ some (string s, rest)) String.ofList_toList

/-! ## What follows a number -/

/-- Does the text not go on with a character of numbers? -/
def IsDelimited (rest : List Char) : Prop := ∀ c ∈ rest.head?, isFigure c = false

/-- A number does not depend on what follows it. -/
theorem IsDelimited.preserves_append {rest : List Char} (h : IsDelimited rest) :
    Preserves (· ++ rest) where
  figure _ _ _ _ := rfl
  minus _ := .inl rfl
  other text htext := by
    cases text with
    | nil => exact h
    | cons c text => exact htext

end Token

/-! ## Numbers that are read back -/

namespace Number

/-- Is the number read back from its text? -/
def ReadsBack (n : Number) : Prop := Token.scan n.text.toList = some (.number n, [])

instance (n : Number) : Decidable n.ReadsBack := inferInstanceAs (Decidable (_ = _))

theorem ReadsBack.exists_scanNumeral {n : Number} (h : n.ReadsBack) :
    ∃ numeral, Token.scanNumeral n.text.toList = some (numeral, []) ∧ numeral.value = some n := by
  have hfixed : ∀ e ∈ Token.fixed, e.2 ≠ .number n := by simp [Token.fixed, NonFinite.all]
  rw [ReadsBack, Token.scan_eq] at h
  split at h
  · next found hfound =>
    obtain ⟨e, he, hmap⟩ := List.exists_of_findSome?_eq_some hfound
    obtain ⟨after, -, heq⟩ := Option.map_eq_some_iff.mp hmap
    rw [← heq, Option.some.injEq, Prod.mk.injEq] at h
    exact absurd h.1 (hfixed e he)
  · split at h
    · obtain ⟨found, -, heq⟩ := Option.map_eq_some_iff.mp h
      cases heq
    · obtain ⟨⟨numeral, after⟩, hnumeral, hvalue⟩ := Option.bind_eq_some_iff.mp h
      obtain ⟨m, hm, heq⟩ := Option.bind_eq_some_iff.mp hvalue
      cases heq
      exact ⟨numeral, hnumeral, hm⟩

/-- A number that is read back from its text alone is read back wherever the text stands. -/
theorem ReadsBack.scan_append {n : Number} (h : n.ReadsBack) {rest : List Char}
    (hrest : Token.IsDelimited rest) :
    Token.scan (n.text.toList ++ rest) = some (.number n, rest) := by
  obtain ⟨numeral, hnumeral, hvalue⟩ := h.exists_scanNumeral
  have happend := hrest.preserves_append.scanNumeral_eq n.text.toList
  rw [hnumeral] at happend
  exact Token.scan_of_scanNumeral happend hvalue

end Number

/-! ## Whole numbers -/

theorem head?_digits_ne {n : Nat} (h : n ≠ 0) : (Decimal.digits n).head? ≠ some '0' := by
  induction n using Nat.strongRecOn with
  | ind n ih =>
    rw [Decimal.digits]
    by_cases hn : n < 10
    · rw [Nat.toDigits_of_lt_base hn]
      simpa using h
    · rw [Nat.toDigits_of_base_le (by decide) (Nat.le_of_not_lt hn),
        List.head?_append_of_ne_nil _ Nat.toDigits_ne_nil]
      exact ih (n / 10) (by omega) (by omega)

theorem Numeral.collect_eq {ds : List Char} (significand : Nat)
    (h : ds.foldl (fun n c ↦ 10 * n + Decimal.digitValue c) significand < Number.wordLimit) :
    Numeral.collect significand ds
      = (ds.foldl (fun n c ↦ 10 * n + Decimal.digitValue c) significand, ds.length) := by
  induction ds generalizing significand with
  | nil => rfl
  | cons d ds ih =>
    have hgrows : ∀ (l : List Char) (n : Nat),
        n ≤ l.foldl (fun n c ↦ 10 * n + Decimal.digitValue c) n := by
      intro l
      induction l with
      | nil => exact fun n ↦ Nat.le_refl n
      | cons c l ih =>
        intro n
        exact Nat.le_trans (by omega) (ih (10 * n + Decimal.digitValue c))
    rw [List.foldl_cons] at h
    rw [collect]
    dsimp only
    rw [if_pos (Nat.lt_of_le_of_lt (hgrows ds _) h), ih _ h]
    rfl

theorem Token.scanUnsigned_digits (negative : Bool) (n : Nat) :
    Token.scanUnsigned negative (Decimal.digits n)
      = some (⟨negative, Decimal.digits n, none, none⟩, []) := by
  have hdigit : ∀ c ∈ Decimal.digits n, Decimal.isDigit c = true :=
    fun _ ↦ Decimal.isDigit_of_mem_digits
  have hwhole : Token.scanWhole (Decimal.digits n) = some (Decimal.digits n, []) := by
    rw [Token.scanWhole, Token.scanDigits, List.takeWhile_eq_self_iff.mpr hdigit,
      List.dropWhile_eq_nil_iff.mpr hdigit]
    split
    · next hnil => exact absurd (Prod.mk.inj hnil).1 (Decimal.digits_ne_nil n)
    · next d tail after hzero =>
      -- only zero begins with a zero, and it has no other digit
      have hlist := (Prod.mk.inj hzero).1
      by_cases hn : n = 0
      · subst hn
        cases hlist
      · exact absurd (congrArg List.head? hlist) (head?_digits_ne hn)
    · next heq => rw [← heq]
  rw [Token.scanUnsigned, hwhole]
  rfl

theorem Numeral.value_digits (negative : Bool) {n : Nat} (h : n < Number.wordLimit) :
    Numeral.value ⟨negative, Decimal.digits n, none, none⟩ = some
      (if negative = false then .int n
      else if n = 0 ∨ Nat.pow 2 63 < n then .float (.signed true (Rank.ofNat n))
      else .int (-n)) := by
  have hfold : (Decimal.digits n).foldl (fun n c ↦ 10 * n + Decimal.digitValue c) 0 = n :=
    Decimal.ofDigits_digits n
  rw [value, Numeral.collect_eq 0 (hfold.symm ▸ h), hfold]
  exact if_pos ⟨rfl, rfl, rfl⟩

/-- Does a whole number fit in 64 bits, with or without a sign? -/
def Number.IsWord (n : Int) : Prop := -(2 ^ 63) ≤ n ∧ n < 2 ^ 64

theorem Number.readsBack_int {n : Int} (h : IsWord n) : (int n).ReadsBack := by
  obtain ⟨hlow, hhigh⟩ := h
  have hlimit : n.natAbs < wordLimit := by
    change n.natAbs < 2 ^ 64
    omega
  by_cases hneg : n < 0
  · have hscan : Token.scanNumeral (int n).text.toList
        = some (⟨true, Decimal.digits n.natAbs, none, none⟩, []) := by
      rw [text, Decimal.ofInt, if_pos hneg, String.toList_ofList]
      exact Token.scanUnsigned_digits true n.natAbs
    refine Token.scan_of_scanNumeral hscan ?_
    have hfits : ¬(n.natAbs = 0 ∨ Nat.pow 2 63 < n.natAbs) := by
      change ¬(n.natAbs = 0 ∨ 2 ^ 63 < n.natAbs)
      omega
    rw [Numeral.value_digits true hlimit, if_neg nofun, if_neg hfits,
      Int.ofNat_natAbs_of_nonpos (Int.le_of_lt hneg), Int.neg_neg]
  · have hscan : Token.scanNumeral (int n).text.toList
        = some (⟨false, Decimal.digits n.natAbs, none, none⟩, []) := by
      rw [text, Decimal.ofInt, if_neg hneg, String.toList_ofList,
        Token.Preserves.scanNumeral_of_head?_ne]
      · exact Token.scanUnsigned_digits false n.natAbs
      · intro hhead
        have hdigit := Decimal.isDigit_of_mem_digits (List.mem_of_mem_head? hhead)
        exact absurd hdigit (by decide)
    refine Token.scan_of_scanNumeral hscan ?_
    rw [Numeral.value_digits false hlimit, if_pos rfl, Int.natAbs_of_nonneg (Int.not_lt.mp hneg)]

/-! ## Data -/

open Token (scanAll IsDelimited)

/-- Does a text have these tokens, wherever it stands before something that does not go on with a
number? -/
def ScansAs (text : List Char) (tokens : List Token) : Prop :=
  ∀ rest others, IsDelimited rest → scanAll rest = some others →
    scanAll (text ++ rest) = some (tokens ++ others)

namespace ScansAs

variable {text text' : List Char} {tokens tokens' : List Token} {t : Token} {c : Char}

theorem nil : ScansAs [] [] := fun _ _ _ h ↦ h

theorem singleton (h : ∀ rest, IsDelimited rest → Token.scan (text ++ rest) = some (t, rest)) :
    ScansAs text [t] := by
  intro rest others hrest hothers
  rw [Token.scanAll_of_scan (h rest hrest), hothers]
  rfl

/-- A mark stands between two texts without becoming a part of them. -/
theorem mark (hfigure : Token.isFigure c = false)
    (hscan : ∀ rest, Token.scan (c :: rest) = some (t, rest))
    (htext : ScansAs text tokens) (htext' : ScansAs text' tokens') :
    ScansAs (text ++ c :: text') (tokens ++ t :: tokens') := by
  intro rest others hrest hothers
  have hdelimited : IsDelimited (c :: (text' ++ rest)) := by
    rintro d ⟨⟩
    exact hfigure
  have hrest' : scanAll (c :: (text' ++ rest)) = some (t :: (tokens' ++ others)) := by
    rw [Token.scanAll_of_scan (hscan _), htext' rest others hrest hothers]
    rfl
  simpa using htext _ _ hdelimited hrest'

theorem comma (htext : ScansAs text tokens) (htext' : ScansAs text' tokens') :
    ScansAs (text ++ ',' :: text') (tokens ++ .comma :: tokens') :=
  mark rfl (fun _ ↦ rfl) htext htext'

theorem member (key : String) (htext : ScansAs text tokens) :
    ScansAs (quoteString key ++ ':' :: text) (.string key :: .colon :: tokens) :=
  mark rfl (fun _ ↦ rfl) (singleton fun rest _ ↦ Token.scan_quoteString key rest) htext

theorem enclosed {c' : Char} {t' : Token} (hscan : ∀ rest, Token.scan (c :: rest) = some (t, rest))
    (hfigure : Token.isFigure c = false)
    (hscan' : ∀ rest, Token.scan (c' :: rest) = some (t', rest))
    (hfigure' : Token.isFigure c' = false) (htext : ScansAs text tokens) :
    ScansAs (c :: text ++ [c']) (t :: tokens ++ [t']) := by
  have hopen : ScansAs ([] ++ c :: text) ([] ++ t :: tokens) := mark hfigure hscan nil htext
  exact mark hfigure' hscan' hopen nil

theorem compactItems {items : List Json}
    (h : ∀ t ∈ items, ScansAs (compactChars t) (tokensOf t)) :
    ScansAs (Json.compactItems items) (Tree.itemTokens .number items) := by
  induction items with
  | nil => exact nil
  | cons item items ih =>
    obtain ⟨hitem, hitems⟩ := List.forall_mem_cons.mp h
    cases items with
    | nil => exact hitem
    | cons second items => exact comma hitem (ih hitems)

theorem compactMembers {members : List (String × Json)}
    (h : ∀ m ∈ members, ScansAs (compactChars m.2) (tokensOf m.2)) :
    ScansAs (Json.compactMembers members) (Tree.memberTokens .number members) := by
  induction members with
  | nil => exact nil
  | cons m members ih =>
    obtain ⟨hmember, hmembers⟩ := List.forall_mem_cons.mp h
    cases members with
    | nil => exact member m.1 hmember
    | cons second members => exact comma (member m.1 hmember) (ih hmembers)

end ScansAs

/-- The text of data has the tokens of the data. -/
theorem scansAs_compactChars {json : Json} (h : ∀ n ∈ json.numbers, n.ReadsBack) :
    ScansAs (compactChars json) (tokensOf json) := by
  induction json using Tree.induct with
  | null => exact .singleton fun _ _ ↦ rfl
  | bool b =>
    cases b with
    | false => exact .singleton fun _ _ ↦ rfl
    | true => exact .singleton fun _ _ ↦ rfl
  | number n =>
    have hn : n.ReadsBack := h n List.mem_cons_self
    exact .singleton fun _ hrest ↦ hn.scan_append hrest
  | string s => exact .singleton fun rest _ ↦ Token.scan_quoteString s rest
  | array items ih =>
    rw [Tree.forall_mem_numbers_array] at h
    have hitems := ScansAs.compactItems fun t ht ↦ ih t ht (h t ht)
    exact .enclosed (fun _ ↦ rfl) rfl (fun _ ↦ rfl) rfl hitems
  | object members ih =>
    rw [Tree.forall_mem_numbers_object] at h
    have hmembers := ScansAs.compactMembers fun m hm ↦ ih m hm (h m hm)
    exact .enclosed (fun _ ↦ rfl) rfl (fun _ ↦ rfl) rfl hmembers

theorem scanAll_compactChars {json : Json} (h : ∀ n ∈ json.numbers, n.ReadsBack) :
    scanAll (compactChars json) = some (tokensOf json) := by
  have hscan := scansAs_compactChars h [] [] (by simp [IsDelimited]) (by rw [scanAll])
  rwa [List.append_nil, List.append_nil] at hscan

/-- **Data that is not nested too deeply is read back from its text**, as long as its numbers
are. -/
theorem read_compact {json : Json} (h : ∀ n ∈ json.numbers, n.ReadsBack)
    (hdepth : json.depth ≤ nestingLimit) : read (compact json) = some json := by
  rw [read, compact, String.toList_ofList, scanAll_compactChars h, Option.bind_some,
    ofTokens_eq_some_iff]
  exact ⟨rfl, hdepth⟩

/-! ## Data that is held in memory -/

/-- Is this a number of JSON data in memory: a whole number of 64 bits, or a finite double? -/
def Number.IsStored : Number → Prop
  | .int n => Number.IsWord n
  | .float x => x.isFinite = true

instance (n : Number) : Decidable n.IsStored :=
  match n with
  | .int n => inferInstanceAs (Decidable (-(2 ^ 63) ≤ n ∧ n < 2 ^ 64))
  | .float x => inferInstanceAs (Decidable (x.isFinite = true))

/-- Canonical data in memory is read back from its text, if no digits of its numbers are lost. -/
theorem parse_compact {json : Json} (hcanonical : json.IsCanonical)
    (hstored : ∀ n ∈ json.numbers, n.IsStored)
    (hfloats : ∀ x, Number.float x ∈ json.numbers → (Number.float x).ReadsBack)
    (hdepth : json.depth ≤ nestingLimit) : parse (compact json) = some json := by
  have hnumbers : ∀ n ∈ json.numbers, n.ReadsBack := by
    intro n hn
    cases n with
    | int n => exact Number.readsBack_int (hstored _ hn)
    | float x => exact hfloats x hn
  rw [parse, read_compact hnumbers hdepth]
  exact congrArg some hcanonical

end RunQuery.Json

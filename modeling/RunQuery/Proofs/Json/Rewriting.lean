import RunQuery.Json.Extended
import RunQuery.Proofs.Json.Written

/-!
# The pass over the text and the scanner

The pass that puts placeholders in the place of bare words knows nothing of tokens: it counts quotes
and backslashes. The scanner does. That the two stay in step is what is shown here: the tokens of
the rewritten text are those of the text itself, with each bare word turned into a string.

It holds of every text, well-formed or not. Where the scanner finds no token in the one text, it
finds none in the other.
-/

namespace RunQuery.Json.Extended

open Token (scan scanAll scanString scanFixed scanNumeral afterWord?)

/-! ## Steps of the pass -/

theorem rewrite_cons_of_word?_eq_none {p : Place} {c : Char} {rest : List Char}
    (h : p.word? (c :: rest) = none) : rewrite p (c :: rest) = c :: rewrite (p.next c) rest := by
  rw [rewrite]
  split
  · next found =>
    rw [h] at found
    cases found
  · rfl

@[simp] theorem rewrite_nil (p : Place) : rewrite p [] = [] := by rw [rewrite]

theorem rewrite_inside_cons (c : Char) (rest : List Char) :
    rewrite .inside (c :: rest) = c :: rewrite (Place.inside.next c) rest :=
  rewrite_cons_of_word?_eq_none rfl

theorem rewrite_escaped_cons (c : Char) (rest : List Char) :
    rewrite .escaped (c :: rest) = c :: rewrite .inside rest :=
  rewrite_cons_of_word?_eq_none rfl

theorem rewrite_inside_plain {c : Char} (rest : List Char) (hquote : c ≠ '"') (hslash : c ≠ '\\') :
    rewrite .inside (c :: rest) = c :: rewrite .inside rest := by
  rw [rewrite_inside_cons, Place.next, if_neg hslash, if_neg hquote]

theorem rewrite_outside_quote (rest : List Char) :
    rewrite .outside ('"' :: rest) = '"' :: rewrite .inside rest :=
  rewrite_cons_of_word?_eq_none rfl

theorem rewrite_of_bareWord? {text after : List Char} {n : NonFinite}
    (h : bareWord? text = some (n, after)) :
    rewrite .outside text = quoteString (placeholder n) ++ rewrite .outside after := by
  cases text with
  | nil => cases (length_bareWord? h : after.length < 0)
  | cons c rest =>
    rw [rewrite]
    split
    · next found =>
      obtain ⟨rfl, rfl⟩ := Prod.mk.inj (Option.some.inj (found.symm.trans h))
      rfl
    · next hnone => cases hnone.symm.trans h

theorem rewrite_of_bareWord?_eq_none {c : Char} {rest : List Char}
    (h : bareWord? (c :: rest) = none) :
    rewrite .outside (c :: rest) = c :: rewrite (Place.outside.next c) rest :=
  rewrite_cons_of_word?_eq_none h

/-! ### Where bare words begin -/

/-- The characters that the bare words begin with. -/
def initials : List Char := ['N', 'I', '-']

theorem bareWord?_eq_none {c : Char} (rest : List Char) (h : c ∉ initials) :
    bareWord? (c :: rest) = none := by
  have hhead : ∀ n : NonFinite, ∃ w ws, n.word.toList = w :: ws ∧ w ∈ initials := by
    intro n
    cases n with
    | nan => exact ⟨_, _, rfl, by decide⟩
    | infinity => exact ⟨_, _, rfl, by decide⟩
    | negInfinity => exact ⟨_, _, rfl, by decide⟩
  rw [bareWord?, List.findSome?_eq_none_iff]
  intro n _
  obtain ⟨w, ws, heq, hw⟩ := hhead n
  rw [heq, Token.afterWord?_eq_none ws rest]
  · rfl
  · rintro rfl
    exact h hw

/-- The one bare word with a minus sign goes on with a letter. -/
theorem bareWord?_minus_eq_none {d : Char} (rest : List Char) (h : 'I' ≠ d) :
    bareWord? ('-' :: d :: rest) = none := by
  rw [bareWord?, List.findSome?_eq_none_iff]
  intro n _
  cases n with
  | nan => rfl
  | infinity => rfl
  | negInfinity => exact congrArg (Option.map _) (if_neg h)

theorem rewrite_outside_cons {c : Char} {rest : List Char} (h : bareWord? (c :: rest) = none)
    (hquote : c ≠ '"') : rewrite .outside (c :: rest) = c :: rewrite .outside rest := by
  rw [rewrite_of_bareWord?_eq_none h, Place.next, if_neg hquote]

theorem rewrite_outside_plain {c : Char} (rest : List Char) (hquote : c ≠ '"')
    (h : c ∉ initials) : rewrite .outside (c :: rest) = c :: rewrite .outside rest :=
  rewrite_outside_cons (bareWord?_eq_none rest h) hquote

/-- Outside of strings the first character stays, or a bare word becomes a string. -/
theorem head?_rewrite_outside (text : List Char) :
    (rewrite .outside text).head? = if (bareWord? text).isSome then some '"' else text.head? := by
  cases hword : bareWord? text with
  | some found =>
    obtain ⟨n, after⟩ := found
    rw [rewrite_of_bareWord? hword]
    rfl
  | none =>
    cases text with
    | nil => rw [rewrite_nil]; rfl
    | cons c rest => rw [rewrite_of_bareWord?_eq_none hword]; rfl

/-! ## Numbers and words -/

theorem not_mem_initials {c : Char} (h : Token.isFigure c = true) (hminus : c ≠ '-') :
    c ∉ initials := by
  simp only [initials, List.mem_cons, List.not_mem_nil, or_false, not_or]
  refine ⟨?_, ?_, hminus⟩
  · rintro rfl
    exact absurd h (by decide)
  · rintro rfl
    exact absurd h (by decide)

/-- The pass leaves numbers alone. -/
theorem preserves_rewrite : Token.Preserves (rewrite .outside) where
  figure c text hc hminus := by
    refine rewrite_outside_plain text ?_ (not_mem_initials hc hminus)
    rintro rfl
    exact absurd hc (by decide)
  minus text := by
    cases hword : bareWord? ('-' :: text) with
    | none => exact .inl (rewrite_outside_cons hword (by decide))
    | some found =>
      refine .inr ⟨?_, ?_⟩
      · rintro d hd
        obtain ⟨rest, rfl⟩ := List.head?_eq_some_iff.mp hd
        by_cases hletter : 'I' = d
        · subst hletter
          decide
        · rw [bareWord?_minus_eq_none rest hletter] at hword
          cases hword
      · rw [head?_rewrite_outside, hword]
        rintro c ⟨⟩
        decide
  other text htext := by
    rw [head?_rewrite_outside]
    split
    · rintro c ⟨⟩
      decide
    · exact htext

theorem isSome_afterWord?_of_rewrite {ws text : List Char} (hquote : '"' ∉ ws)
    (h : (afterWord? ws (rewrite .outside text)).isSome) : (afterWord? ws text).isSome := by
  induction ws generalizing text with
  | nil => rfl
  | cons w ws ih =>
    rw [List.mem_cons, not_or] at hquote
    cases text with
    | nil =>
      rw [rewrite_nil] at h
      cases h
    | cons c rest =>
      cases hword : bareWord? (c :: rest) with
      | some found =>
        obtain ⟨n, after⟩ := found
        rw [rewrite_of_bareWord? hword, quoteString, List.cons_append, List.cons_append,
          Token.afterWord?_eq_none ws _ (Ne.symm hquote.1)] at h
        cases h
      | none =>
        by_cases hc : w = c
        · subst hc
          rw [rewrite_outside_cons hword (Ne.symm hquote.1), afterWord?, if_pos rfl] at h
          rw [afterWord?, if_pos rfl]
          exact ih hquote.2 h
        · rw [rewrite_of_bareWord?_eq_none hword,
            Token.afterWord?_eq_none ws _ hc] at h
          cases h

/-- The pass leaves no bare word at the front. -/
theorem bareWord?_rewrite (text : List Char) : bareWord? (rewrite .outside text) = none := by
  have hquote : ∀ n ∈ NonFinite.all, '"' ∉ n.word.toList := by decide
  rw [bareWord?, List.findSome?_eq_none_iff]
  intro n hn
  rw [Option.map_eq_none_iff, ← Option.not_isSome_iff_eq_none]
  intro hafter
  cases hword : bareWord? text with
  | none =>
    rw [bareWord?, List.findSome?_eq_none_iff] at hword
    have hbefore := isSome_afterWord?_of_rewrite (hquote n hn) hafter
    rw [Option.map_eq_none_iff.mp (hword n hn)] at hbefore
    cases hbefore
  | some found =>
    obtain ⟨m, after⟩ := found
    rw [rewrite_of_bareWord? hword, quoteString, List.cons_append, List.cons_append] at hafter
    have hne : bareWord? ('"' :: ((placeholder m).toList.flatMap escapeChar ++ ['"'] ++
        rewrite .outside after)) = none := bareWord?_eq_none _ (by decide)
    rw [bareWord?, List.findSome?_eq_none_iff] at hne
    rw [Option.map_eq_none_iff.mp (hne n hn)] at hafter
    cases hafter

/-- Of the fixed words without the characters that count for the pass, it changes only what
follows. -/
theorem afterWord?_rewrite {ws : List Char} (h : ∀ w ∈ ws, w ≠ '"' ∧ w ∉ initials)
    (text : List Char) :
    afterWord? ws (rewrite .outside text) = (afterWord? ws text).map (rewrite .outside) := by
  induction ws generalizing text with
  | nil => rfl
  | cons w ws ih =>
    obtain ⟨⟨hquote, hinitial⟩, hws⟩ := List.forall_mem_cons.mp h
    cases text with
    | nil =>
      rw [rewrite_nil]
      rfl
    | cons c rest =>
      by_cases hc : w = c
      · subst hc
        rw [rewrite_outside_plain rest hquote hinitial, afterWord?, if_pos rfl, afterWord?,
          if_pos rfl]
        exact ih hws rest
      · rw [Token.afterWord?_eq_none ws rest hc, Option.map_none]
        cases hword : bareWord? (c :: rest) with
        | none =>
          rw [rewrite_of_bareWord?_eq_none hword,
            Token.afterWord?_eq_none ws _ hc]
        | some found =>
          obtain ⟨n, after⟩ := found
          rw [rewrite_of_bareWord? hword, quoteString, List.cons_append,
            List.cons_append, Token.afterWord?_eq_none ws _ hquote]

/-! ## Strings -/

/-- The number written by the next `count` hexadecimal digits, after `n` before them, and what
follows. -/
def scanHex (n : Nat) : (count : Nat) → List Char → Option (Nat × List Char)
  | 0, text => some (n, text)
  | _ + 1, [] => none
  | count + 1, c :: text =>
    (Unicode.hexValue? c).bind fun v ↦ scanHex (16 * n + v) count text

theorem scanHex_four (a b c d : Char) (rest : List Char) :
    scanHex 0 4 (a :: b :: c :: d :: rest) = (Token.hex4? a b c d).map (·, rest) := by
  simp only [scanHex, Token.hex4?, Unicode.hexNumber?, List.isEmpty_cons, Bool.false_eq_true,
    if_false, List.foldlM_cons, List.foldlM_nil, Option.bind_eq_bind, Option.bind_map,
    Option.pure_def, Function.comp_def, Option.map_bind, Option.map_some]

theorem scanHex_eq_none {text : List Char} {count : Nat} (n : Nat) (h : text.length < count) :
    scanHex n count text = none := by
  induction count generalizing n text with
  | zero => cases h
  | succ count ih =>
    cases text with
    | nil => rfl
    | cons c rest =>
      rw [scanHex, Option.bind_eq_none_iff]
      exact fun v _ ↦ ih (16 * n + v) (Nat.lt_of_succ_lt_succ h)

theorem length_scanHex {text rest : List Char} {n count m : Nat}
    (h : scanHex n count text = some (m, rest)) : rest.length + count = text.length := by
  induction count generalizing n text with
  | zero =>
    cases h
    rfl
  | succ count ih =>
    cases text with
    | nil => cases h
    | cons c text =>
      obtain ⟨v, -, hrest⟩ := Option.bind_eq_some_iff.mp h
      rw [List.length_cons, ← ih hrest, Nat.add_assoc]

theorem scanHex_rewrite (n count : Nat) (text : List Char) :
    scanHex n count (rewrite .inside text)
      = (scanHex n count text).map (Prod.map id (rewrite .inside)) := by
  induction count generalizing n text with
  | zero => rfl
  | succ count ih =>
    cases text with
    | nil =>
      rw [rewrite_nil]
      rfl
    | cons c rest =>
      rw [rewrite_inside_cons, scanHex, scanHex]
      cases hv : Unicode.hexValue? c with
      | none => rfl
      | some v =>
        have hplain : Place.inside.next c = .inside := by
          rw [Place.next, if_neg, if_neg]
          · rintro rfl
            cases hv
          · rintro rfl
            cases hv
        rw [hplain]
        exact ih (16 * n + v) rest

theorem eq_append_of_afterWord? {ws text rest : List Char} (h : afterWord? ws text = some rest) :
    text = ws ++ rest := by
  induction ws generalizing text with
  | nil => exact Option.some.inj h
  | cons w ws ih =>
    cases text with
    | nil => cases h
    | cons c text =>
      obtain ⟨rfl, hafter⟩ := Option.ite_none_right_eq_some.mp h
      rw [ih hafter, List.cons_append]

theorem exists_of_four_le_length {text : List Char} (h : 4 ≤ text.length) :
    ∃ a b c d rest, text = a :: b :: c :: d :: rest := by
  rcases text with _ | ⟨a, _ | ⟨b, _ | ⟨c, _ | ⟨d, rest⟩⟩⟩⟩
  · cases h
  · exact absurd h (by simp)
  · exact absurd h (by simp)
  · exact absurd h (by simp)
  · exact ⟨a, b, c, d, rest, rfl⟩

theorem scanString_unicode (text : List Char) :
    scanString ('\\' :: 'u' :: text) = (scanHex 0 4 text).bind fun (n, rest) ↦
      if Token.isLowSurrogate n then none
      else if Token.isHighSurrogate n then
        ((afterWord? ['\\', 'u'] rest).bind (scanHex 0 4)).bind fun (m, rest) ↦
          if Token.isLowSurrogate m then
            (scanString rest).map fun (s, after) ↦
              (Char.ofNat (0x10000 + (n - 0xD800) * 0x400 + (m - 0xDC00)) :: s, after)
          else none
      else (scanString rest).map fun (s, after) ↦ (Char.ofNat n :: s, after) := by
  -- fewer than four characters are no escape, and are refused as an unknown letter is
  rcases text with _ | ⟨a, _ | ⟨b, _ | ⟨c, _ | ⟨d, rest⟩⟩⟩⟩
  · rw [scanHex_eq_none 0 (by simp)]; rfl
  · rw [scanHex_eq_none 0 (by simp)]; rfl
  · rw [scanHex_eq_none 0 (by simp)]; rfl
  · rw [scanHex_eq_none 0 (by simp)]; rfl
  rw [Token.scanString.eq_3, scanHex_four]
  cases Token.hex4? a b c d with
  | none => rfl
  | some n =>
    dsimp only [Option.map_some, Option.bind_some]
    split_ifs with hlow hhigh
    · rfl
    · split
      · next a' b' c' d' rest' =>
        change _ = (scanHex 0 4 (a' :: b' :: c' :: d' :: rest')).bind _
        rw [scanHex_four]
        cases Token.hex4? a' b' c' d' with
        | none => rfl
        | some m => rfl
      · next hother =>
        -- no second escape is there, so a backslash and a `u` have too little after them
        have hnone : (afterWord? ['\\', 'u'] rest).bind (scanHex 0 4) = none := by
          rw [Option.bind_eq_none_iff]
          intro tail htail
          obtain rfl := eq_append_of_afterWord? htail
          refine scanHex_eq_none 0 (Nat.lt_of_not_le fun hlength ↦ ?_)
          obtain ⟨a', b', c', d', rest', rfl⟩ := exists_of_four_le_length hlength
          exact hother a' b' c' d' rest' rfl
        rw [hnone]
        rfl
    · rfl

theorem rewrite_inside_escape (e : Char) (rest : List Char) :
    rewrite .inside ('\\' :: e :: rest) = '\\' :: e :: rewrite .inside rest := by
  rw [rewrite_inside_cons]
  exact congrArg _ (rewrite_escaped_cons e rest)

theorem afterWord?_escape_rewrite (text : List Char) :
    afterWord? ['\\', 'u'] (rewrite .inside text)
      = (afterWord? ['\\', 'u'] text).map (rewrite .inside) := by
  match text with
  | [] => rw [rewrite_nil]; rfl
  | [c] =>
    rw [rewrite_inside_cons, rewrite_nil]
    by_cases hc : '\\' = c
    · subst hc
      rfl
    · rw [Token.afterWord?_eq_none _ _ hc]
      rfl
  | c :: e :: rest =>
    by_cases hc : '\\' = c
    · subst hc
      rw [rewrite_inside_escape]
      by_cases he : 'u' = e
      · subst he
        rfl
      · rw [afterWord?, if_pos rfl, Token.afterWord?_eq_none _ _ he, afterWord?, if_pos rfl,
          Token.afterWord?_eq_none _ _ he]
        rfl
    · rw [rewrite_inside_cons, Token.afterWord?_eq_none _ _ hc, Token.afterWord?_eq_none _ _ hc]
      rfl

theorem map_cons_rewrite {text : List Char}
    (h : scanString (rewrite .inside text)
      = (scanString text).map (Prod.map id (rewrite .outside))) (c : Char) :
    (scanString (rewrite .inside text)).map (fun (s, after) ↦ (c :: s, after))
      = ((scanString text).map fun (s, after) ↦ (c :: s, after)).map
        (Prod.map id (rewrite .outside)) := by
  rw [h, Option.map_map, Option.map_map]
  rfl

/-- A string that goes on with a code point is the same after the pass, if what follows the code
point is. -/
theorem scanString_rewrite_unicode {text : List Char}
    (ih : ∀ rest : List Char, rest.length < text.length →
      scanString (rewrite .inside rest) = (scanString rest).map (Prod.map id (rewrite .outside))) :
    scanString (rewrite .inside ('\\' :: 'u' :: text))
      = (scanString ('\\' :: 'u' :: text)).map (Prod.map id (rewrite .outside)) := by
  rw [rewrite_inside_escape, scanString_unicode, scanString_unicode, scanHex_rewrite,
    Option.bind_map, Option.map_bind]
  cases hfirst : scanHex 0 4 text with
  | none => rfl
  | some found =>
    obtain ⟨n, rest⟩ := found
    have hrest := length_scanHex hfirst
    dsimp only [Option.bind_some, Function.comp, Prod.map, id]
    split_ifs with hlow hhigh
    · rfl
    · rw [afterWord?_escape_rewrite]
      cases hpair : afterWord? ['\\', 'u'] rest with
      | none => rfl
      | some pair =>
        have hlength := Token.length_afterWord? hpair
        rw [List.length_cons, List.length_singleton] at hlength
        dsimp only [Option.map_some, Option.bind_some]
        rw [scanHex_rewrite]
        cases hsecond : scanHex 0 4 pair with
        | none => rfl
        | some found =>
          obtain ⟨m, rest'⟩ := found
          have hrest' := length_scanHex hsecond
          dsimp only [Option.map_some, Option.bind_some, Prod.map, id]
          split_ifs
          · exact map_cons_rewrite (ih rest' (by omega)) _
          · rfl
    · exact map_cons_rewrite (ih rest (by omega)) _

/-- **A string is the same after the pass**, and the pass goes on outside of it. -/
theorem scanString_rewrite (text : List Char) :
    scanString (rewrite .inside text)
      = (scanString text).map (Prod.map id (rewrite .outside)) := by
  -- an escape may take up to twelve characters at once, so the induction is on the length
  induction h : text.length using Nat.strongRecOn generalizing text with
  | ind n ih =>
    have ih : ∀ rest : List Char, rest.length < text.length →
        scanString (rewrite .inside rest)
          = (scanString rest).map (Prod.map id (rewrite .outside)) :=
      fun rest hrest ↦ ih rest.length (h ▸ hrest) rest rfl
    cases text with
    | nil => rw [rewrite_nil]; rfl
    | cons c rest =>
      by_cases hquote : c = '"'
      · subst hquote
        rw [rewrite_inside_cons]
        rfl
      by_cases hslash : c = '\\'
      · subst hslash
        cases rest with
        | nil => rw [rewrite_inside_cons, rewrite_nil]; rfl
        | cons e rest =>
          by_cases hletter : e = 'u'
          · subst hletter
            exact scanString_rewrite_unicode fun rest' hrest' ↦
              ih rest' (Nat.lt_of_lt_of_le hrest' (Nat.le_add_right _ 2))
          · rw [rewrite_inside_escape, Token.scanString_escape _ hletter,
              Token.scanString_escape _ hletter]
            cases Token.shortEscape? e with
            | none => rfl
            | some c => exact map_cons_rewrite (ih rest (Nat.lt_succ_of_lt (Nat.lt_succ_self _))) c
      · rw [rewrite_inside_plain rest hquote hslash, Token.scanString_cons _ hquote hslash,
          Token.scanString_cons _ hquote hslash]
        split_ifs
        · rfl
        · exact map_cons_rewrite (ih rest (Nat.lt_succ_self _)) c

/-! ## Tokens -/

/-- A token as it stands in the rewritten text: a bare word is a string. -/
def spell : Token → Token
  | .word n => .string (placeholder n)
  | t => t

/-- The tokens of fixed spelling apart from the bare words. -/
def marks : List (List Char × Token) :=
  Token.fixed.take (Token.fixed.length - NonFinite.all.length)

/-- The token of fixed spelling at the front of a text, bare words apart, and what follows it. -/
def scanMark (text : List Char) : Option (Token × List Char) :=
  marks.findSome? fun e ↦ (afterWord? e.1 text).map fun rest ↦ (e.2, rest)

theorem scanFixed_eq (text : List Char) :
    scanFixed text = (scanMark text).or ((bareWord? text).map (Prod.map .word id)) := by
  have hfixed : Token.fixed
      = marks ++ NonFinite.all.map fun n ↦ (n.word.toList, Token.word n) := rfl
  rw [scanFixed, hfixed, List.findSome?_append, bareWord?, List.findSome?_map, List.map_findSome?]
  simp only [Function.comp_def, Option.map_map]
  rfl

theorem plain_of_mem_marks :
    ∀ e ∈ marks, e.1 ≠ [] ∧ (∀ w ∈ e.1, w ≠ '"' ∧ w ∉ initials) ∧ spell e.2 = e.2 := by
  have hmarks : ∀ e ∈ marks, e.1 ≠ [] ∧
      e.1.all (fun w ↦ w != '"' && !initials.contains w) = true ∧ spell e.2 = e.2 := by decide
  intro e he
  obtain ⟨hne, hall, hspell⟩ := hmarks e he
  exact ⟨hne, by simpa using hall, hspell⟩

theorem scanMark_rewrite (text : List Char) :
    scanMark (rewrite .outside text)
      = (scanMark text).map (Prod.map spell (rewrite .outside)) := by
  rw [scanMark, scanMark, List.map_findSome?, ← List.head?_filterMap, ← List.head?_filterMap]
  refine congrArg List.head? (List.filterMap_congr fun e he ↦ ?_)
  obtain ⟨-, hplain, hspell⟩ := plain_of_mem_marks e he
  rw [afterWord?_rewrite hplain, Option.map_map, Function.comp, Option.map_map]
  simp only [Function.comp_def, Prod.map, hspell]

theorem scanMark_eq_none {text : List Char} (h : (bareWord? text).isSome) :
    scanMark text = none := by
  cases text with
  | nil => cases h
  | cons c rest =>
    have hc : c ∈ initials := by
      by_contra hc
      rw [bareWord?_eq_none rest hc] at h
      cases h
    rw [scanMark, List.findSome?_eq_none_iff]
    intro e he
    obtain ⟨hne, hplain, -⟩ := plain_of_mem_marks e he
    obtain ⟨w, ws, hw⟩ := List.exists_cons_of_ne_nil hne
    rw [hw] at hplain
    have hwc : w ≠ c := by
      rintro rfl
      exact (hplain w List.mem_cons_self).2 hc
    rw [hw, Token.afterWord?_eq_none ws rest hwc]
    rfl

theorem scan_of_bareWord? {text after : List Char} {n : NonFinite}
    (h : bareWord? text = some (n, after)) : scan text = some (.word n, after) := by
  refine Token.scan_of_scanFixed ?_
  rw [scanFixed_eq, scanMark_eq_none (by rw [h]; rfl), h]
  rfl

theorem scan_rewrite (text : List Char) :
    scan (rewrite .outside text) = (scan text).map (Prod.map spell (rewrite .outside)) := by
  cases hword : bareWord? text with
  | some found =>
    obtain ⟨n, after⟩ := found
    rw [rewrite_of_bareWord? hword, Token.scan_quoteString, scan_of_bareWord? hword]
    rfl
  | none =>
    have hhead : (rewrite .outside text).head? = text.head? := by
      rw [head?_rewrite_outside, hword]
      rfl
    have hfixed : scanFixed (rewrite .outside text)
        = (scanFixed text).map (Prod.map spell (rewrite .outside)) := by
      rw [scanFixed_eq, scanFixed_eq, bareWord?_rewrite, hword, scanMark_rewrite]
      simp
    -- a mark, a string or a number, in the order in which the scanner tries them
    cases hfound : scanFixed text with
    | some found =>
      rw [hfound] at hfixed
      rw [Token.scan_of_scanFixed hfixed, Token.scan_of_scanFixed hfound]
      rfl
    | none =>
      rw [hfound] at hfixed
      by_cases hquote : text.head? = some '"'
      · obtain ⟨rest, rfl⟩ := List.head?_eq_some_iff.mp hquote
        rw [rewrite_outside_quote, Token.scan_quote, Token.scan_quote, scanString_rewrite,
          Option.map_map, Option.map_map]
        rfl
      · rw [Token.scan_of_scanFixed_eq_none hfixed (hhead ▸ hquote),
          Token.scan_of_scanFixed_eq_none hfound hquote, preserves_rewrite.scanNumeral_eq,
          Option.bind_map, Option.map_bind]
        refine congrArg _ (funext fun found ↦ ?_)
        cases hvalue : found.1.value with
        | none => simp [hvalue]
        | some n => simp [hvalue, spell]

/-- **The tokens of the rewritten text are those of the text**, with each bare word a string. -/
theorem scanAll_rewrite (text : List Char) :
    scanAll (rewrite .outside text) = (scanAll text).map (List.map spell) := by
  fun_induction scanAll text with
  | case1 =>
    rw [rewrite_nil, scanAll]
    rfl
  | case2 c rest hblank ih =>
    have hplain : c ≠ '"' ∧ c ∉ initials := by
      have hall : [' ', '\n', '\t', '\r'].all (fun b ↦ b != '"' && !initials.contains b)
          = true := by decide
      simpa using List.all_eq_true.mp hall c (Token.isBlank_iff.mp hblank)
    rw [rewrite_outside_plain rest hplain.1 hplain.2, scanAll, if_pos hblank, ih]
  | case3 c rest hblank hnone =>
    -- without a token there is no bare word, and the first character stays
    have hfirst := scan_rewrite (c :: rest)
    rw [hnone, Option.map_none] at hfirst
    cases hword : bareWord? (c :: rest) with
    | none =>
      rw [rewrite_of_bareWord?_eq_none hword] at hfirst ⊢
      rw [scanAll, if_neg hblank]
      split
      · rfl
      · next hsome =>
        rw [hfirst] at hsome
        cases hsome
    | some found =>
      rw [scan_of_bareWord? hword] at hnone
      cases hnone
  | case4 c rest hblank t after hscan hlength ih =>
    have hfirst := scan_rewrite (c :: rest)
    rw [hscan, Option.map_some] at hfirst
    rw [Token.scanAll_of_scan hfirst, ih, Option.map_map, Option.map_map]
    rfl

end RunQuery.Json.Extended

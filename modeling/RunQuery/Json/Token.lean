import RunQuery.Decimal.Reader
import RunQuery.Json.Number
import RunQuery.Unicode.Ranges

/-!
# Tokens of JSON texts

A JSON text as a sequence of tokens: punctuation, words, numbers and strings. White space between
tokens is dropped. A text with anything else in it has no tokens.

Besides the three words of JSON the scanner knows `NaN`, `Infinity` and `-Infinity`, which some
writers put where a number is meant. Whether they are allowed is for the reader to say.
-/

namespace RunQuery

/-- A number that is not finite. -/
inductive NonFinite where
  /-- Not a number. -/
  | nan
  /-- Greater than every finite number. -/
  | infinity
  /-- Less than every finite number. -/
  | negInfinity
  deriving DecidableEq, Repr

namespace NonFinite

def all : List NonFinite := [nan, infinity, negInfinity]

theorem mem_all (n : NonFinite) : n ∈ all := by
  cases n with
  | nan => decide
  | infinity => decide
  | negInfinity => decide

def word : NonFinite → String
  | nan => "NaN"
  | infinity => "Infinity"
  | negInfinity => "-Infinity"

/-- The number that a word stands for. -/
def ofWord? (text : String) : Option NonFinite := all.find? (·.word == text)

def toDouble : NonFinite → Double
  | nan => Double.nan
  | infinity => Double.infinity false
  | negInfinity => Double.infinity true

def ofDouble? : Double → Option NonFinite
  | .nan => some nan
  | .signed negative r =>
    if r.val = infinityRank then some (if negative then negInfinity else infinity) else none

end NonFinite

namespace Json

/-- A token of a JSON text. -/
inductive Token where
  /-- An opening bracket. -/
  | beginArray
  /-- A closing bracket. -/
  | endArray
  /-- An opening brace. -/
  | beginObject
  /-- A closing brace. -/
  | endObject
  /-- A comma. -/
  | comma
  /-- A colon. -/
  | colon
  /-- The word `null`. -/
  | null
  /-- The words `true` and `false`. -/
  | bool (b : Bool)
  /-- A number. -/
  | number (n : Number)
  /-- A text between double quotes. -/
  | string (s : String)
  /-- A word for a number that is not finite. -/
  | word (n : NonFinite)
  deriving DecidableEq

namespace Token

/-- The white space that may stand between tokens. -/
def isBlank (c : Char) : Bool := c == ' ' || c == '\n' || c == '\t' || c == '\r'

/-! ## Strings -/

/-- The number written by four hexadecimal digits. -/
def hex4? (a b c d : Char) : Option Nat := Unicode.hexNumber? [a, b, c, d]

/-- The character that a backslash and the letter `c` stand for. -/
def shortEscape? (c : Char) : Option Char :=
  match c with
  | '"' => some '"'
  | '\\' => some '\\'
  | '/' => some '/'
  | 'b' => some '\x08'
  | 'f' => some '\x0c'
  | 'n' => some '\n'
  | 'r' => some '\r'
  | 't' => some '\t'
  | _ => none

/-- Is this the first half of a surrogate pair? -/
def isHighSurrogate (n : Nat) : Bool := 0xD800 ≤ n && n ≤ 0xDBFF

/-- Is this the second half of a surrogate pair? -/
def isLowSurrogate (n : Nat) : Bool := 0xDC00 ≤ n && n ≤ 0xDFFF

/-- The characters of a string up to its closing quote, and what follows the quote. Raw control
characters, unknown escapes and halves of surrogate pairs are refused. -/
def scanString : List Char → Option (List Char × List Char)
  | [] => none
  | '"' :: rest => some ([], rest)
  | '\\' :: 'u' :: a :: b :: c :: d :: rest =>
    match hex4? a b c d with
    | none => none
    | some n =>
      if isLowSurrogate n then none
      else if isHighSurrogate n then
        match rest with
        | '\\' :: 'u' :: a' :: b' :: c' :: d' :: rest =>
          match hex4? a' b' c' d' with
          | none => none
          | some m =>
            if isLowSurrogate m then
              -- two escapes, one character
              (scanString rest).map fun (s, after) ↦
                (Char.ofNat (0x10000 + (n - 0xD800) * 0x400 + (m - 0xDC00)) :: s, after)
            else none
        | _ => none
      else (scanString rest).map fun (s, after) ↦ (Char.ofNat n :: s, after)
  | '\\' :: e :: rest =>
    match shortEscape? e with
    | none => none
    | some c => (scanString rest).map fun (s, after) ↦ (c :: s, after)
  | c :: rest =>
    if c.toNat < 0x20 ∨ c = '\\' then none
    else (scanString rest).map fun (s, after) ↦ (c :: s, after)

/-! ## Numbers -/

def scanDigits (text : List Char) : List Char × List Char :=
  (text.takeWhile Decimal.isDigit, text.dropWhile Decimal.isDigit)

/-- The digits before the point: a single zero, or digits that do not begin with one. -/
def scanWhole (text : List Char) : Option (List Char × List Char) :=
  match scanDigits text with
  | ([], _) => none
  | ('0' :: _ :: _, _) => none
  | (ds, rest) => some (ds, rest)

/-- The point and the digits after it, if there is a point. -/
def scanFraction : List Char → Option (Option (List Char) × List Char)
  | '.' :: rest =>
    match scanDigits rest with
    | ([], _) => none
    | (ds, rest) => some (some ds, rest)
  | text => some (none, text)

/-- An exponent after its letter. -/
def scanScale (text : List Char) : Option (Int × List Char) :=
  let (negative, rest) := Decimal.splitSign text
  match scanDigits rest with
  | ([], _) => none
  | (ds, rest) =>
    some (if negative then -(Decimal.ofDigits ds : Int) else Decimal.ofDigits ds, rest)

def scanExponent : List Char → Option (Option Int × List Char)
  | 'e' :: rest => (scanScale rest).map fun (n, rest) ↦ (some n, rest)
  | 'E' :: rest => (scanScale rest).map fun (n, rest) ↦ (some n, rest)
  | text => some (none, text)

/-- The unsigned part of a number and what follows it. -/
def scanUnsigned (negative : Bool) (text : List Char) : Option (Numeral × List Char) := do
  let (whole, rest) ← scanWhole text
  let (fraction, rest) ← scanFraction rest
  let (exponent, rest) ← scanExponent rest
  return (⟨negative, whole, fraction, exponent⟩, rest)

/-- A number and what follows it. -/
def scanNumeral : List Char → Option (Numeral × List Char)
  | '-' :: rest => scanUnsigned true rest
  | text => scanUnsigned false text

/-! ## Whole texts -/

/-- What follows the word at the front of a text, if it is there. -/
def afterWord? : (spelling text : List Char) → Option (List Char)
  | [], text => some text
  | _ :: _, [] => none
  | w :: ws, c :: text => if w = c then afterWord? ws text else none

-- `-Infinity` is among these, so it is tried before the numbers that begin with the same sign
def fixed : List (List Char × Token) :=
  [(['['], beginArray), ([']'], endArray), (['\x7b'], beginObject), (['\x7d'], endObject),
   ([','], comma), ([':'], colon), (['n', 'u', 'l', 'l'], null),
   (['t', 'r', 'u', 'e'], bool true), (['f', 'a', 'l', 's', 'e'], bool false)] ++
  NonFinite.all.map fun n ↦ (n.word.toList, word n)

/-- The token at the front of a text that does not begin with white space, and what follows. -/
def scan (text : List Char) : Option (Token × List Char) :=
  match fixed.findSome? fun (w, t) ↦ (afterWord? w text).map fun rest ↦ (t, rest) with
  | some found => some found
  | none =>
    match text with
    | '"' :: rest => (scanString rest).map fun (s, rest) ↦ (string (String.ofList s), rest)
    | _ => do
      let (numeral, rest) ← scanNumeral text
      return (number (← numeral.value), rest)

/-! ### What follows a token is shorter -/

theorem exists_of_map_cons {c : Char} {o : Option (List Char × List Char)} {s rest : List Char}
    (h : (o.map fun (s, after) ↦ (c :: s, after)) = some (s, rest)) :
    ∃ t, o = some (t, rest) := by
  obtain ⟨⟨t, after⟩, ht, he⟩ := Option.map_eq_some_iff.1 h
  cases he
  exact ⟨t, ht⟩

theorem length_scanString {text s rest : List Char} (h : scanString text = some (s, rest)) :
    rest.length < text.length := by
  fun_induction scanString text generalizing s rest with
  | case2 => simp_all
  | case6 a b c d n _ _ _ a' b' c' d' tail m _ _ ih =>
    obtain ⟨t, ht⟩ := exists_of_map_cons h
    have := ih ht
    simp only [List.length_cons]
    omega
  | case9 a b c d tail n _ _ _ ih =>
    obtain ⟨t, ht⟩ := exists_of_map_cons h
    have := ih ht
    simp only [List.length_cons]
    omega
  | case11 e tail _ c _ ih =>
    obtain ⟨t, ht⟩ := exists_of_map_cons h
    have := ih ht
    simp only [List.length_cons]
    omega
  | case13 c tail _ _ _ _ ih =>
    obtain ⟨t, ht⟩ := exists_of_map_cons h
    have := ih ht
    simp only [List.length_cons]
    omega
  | _ => simp at h

theorem length_scanDigits (text : List Char) :
    (scanDigits text).1.length + (scanDigits text).2.length = text.length := by
  simp only [scanDigits]
  rw [← List.length_append, List.takeWhile_append_dropWhile]

theorem length_scanWhole {text ds rest : List Char} (h : scanWhole text = some (ds, rest)) :
    rest.length < text.length := by
  have key := length_scanDigits text
  rw [scanWhole] at h
  split at h
  · simp at h
  · simp at h
  · next hne _ heq =>
    cases h
    rw [heq] at key
    have := List.length_pos_iff.2 hne
    simp only at key
    omega

theorem length_scanFraction {text rest : List Char} {ds : Option (List Char)}
    (h : scanFraction text = some (ds, rest)) : rest.length ≤ text.length := by
  unfold scanFraction at h
  split at h
  · next tail =>
    have key := length_scanDigits tail
    split at h
    · simp at h
    · next heq =>
      cases h
      rw [heq] at key
      simp only [List.length_cons] at key ⊢
      omega
  · cases h
    exact Nat.le_refl _

theorem length_scanScale {text rest : List Char} {n : Int}
    (h : scanScale text = some (n, rest)) : rest.length ≤ text.length := by
  have hsign : (Decimal.splitSign text).2.length ≤ text.length := by
    unfold Decimal.splitSign
    split <;> simp
  have key := length_scanDigits (Decimal.splitSign text).2
  rw [scanScale] at h
  simp only at h
  split at h
  · simp at h
  · next heq =>
    cases h
    rw [heq] at key
    simp only at key
    omega

theorem length_scanExponent {text rest : List Char} {n : Option Int}
    (h : scanExponent text = some (n, rest)) : rest.length ≤ text.length := by
  unfold scanExponent at h
  split at h
  · obtain ⟨⟨m, after⟩, hm, he⟩ := Option.map_eq_some_iff.1 h
    cases he
    exact Nat.le_succ_of_le (length_scanScale hm)
  · obtain ⟨⟨m, after⟩, hm, he⟩ := Option.map_eq_some_iff.1 h
    cases he
    exact Nat.le_succ_of_le (length_scanScale hm)
  · cases h
    exact Nat.le_refl _

theorem length_scanUnsigned {negative : Bool} {text rest : List Char} {n : Numeral}
    (h : scanUnsigned negative text = some (n, rest)) : rest.length < text.length := by
  simp only [scanUnsigned, Option.bind_eq_bind, Option.bind_eq_some_iff, Option.pure_def] at h
  obtain ⟨⟨whole, r₁⟩, h₁, ⟨fraction, r₂⟩, h₂, ⟨exponent, r₃⟩, h₃, he⟩ := h
  cases he
  have := length_scanWhole h₁
  have := length_scanFraction h₂
  have := length_scanExponent h₃
  simp only at *
  omega

theorem length_scanNumeral {text rest : List Char} {n : Numeral}
    (h : scanNumeral text = some (n, rest)) : rest.length < text.length := by
  unfold scanNumeral at h
  split at h
  · exact Nat.lt_succ_of_lt (length_scanUnsigned h)
  · exact length_scanUnsigned h

theorem length_afterWord? {ws text rest : List Char} (h : afterWord? ws text = some rest) :
    rest.length + ws.length = text.length := by
  induction ws generalizing text with
  | nil => cases h; rfl
  | cons w ws ih =>
    cases text with
    | nil => simp [afterWord?] at h
    | cons c text =>
      rw [afterWord?] at h
      split at h
      · have := ih h
        simp only [List.length_cons]
        omega
      · simp at h

theorem fixed_ne_nil : ∀ e ∈ fixed, e.1 ≠ [] := by decide

theorem length_scan {text rest : List Char} {t : Token} (h : scan text = some (t, rest)) :
    rest.length < text.length := by
  unfold scan at h
  split at h
  · next found hfound =>
    cases h
    obtain ⟨e, he, hmap⟩ := List.exists_of_findSome?_eq_some hfound
    obtain ⟨after, hafter, heq⟩ := Option.map_eq_some_iff.1 hmap
    cases heq
    have := length_afterWord? hafter
    have := List.length_pos_iff.2 (fixed_ne_nil e he)
    omega
  · split at h
    · obtain ⟨⟨s, after⟩, hs, he⟩ := Option.map_eq_some_iff.1 h
      cases he
      exact Nat.lt_succ_of_lt (length_scanString hs)
    · simp only [Option.bind_eq_bind, Option.bind_eq_some_iff, Option.pure_def] at h
      obtain ⟨⟨n, after⟩, hn, v, -, he⟩ := h
      cases he
      exact length_scanNumeral hn

/-! ### All tokens -/

/-- The tokens of a text; `none` where something in it is no token. -/
def scanAll (text : List Char) : Option (List Token) :=
  match text with
  | [] => some []
  | c :: rest =>
    if isBlank c then scanAll rest
    else
      match h : scan (c :: rest) with
      | none => none
      | some (t, after) =>
        have : after.length < (c :: rest).length := length_scan h
        (scanAll after).map (t :: ·)
termination_by text.length
decreasing_by
  · exact Nat.lt_succ_self _
  · assumption

end Token

end Json

end RunQuery

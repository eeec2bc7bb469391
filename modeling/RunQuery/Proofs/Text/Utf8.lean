import Mathlib.Tactic.SplitIfs
import RunQuery.Text.Utf8

/-!
# Characters are read back from their bytes

The first byte of a character gives the number of its bytes and bounds its second one, and the
bounds hold of the bytes that are written. So the reader takes just the bytes of the character and
goes on after them.
-/

namespace RunQuery.Text.Utf8

/-! ## First bytes -/

/-- What begins with a byte, said of its number. -/
theorem leadByte_eq (b : UInt8) :
    leadByte b =
      if b.toNat < 0x80 then some (1, 0x80, 0xBF)
      else if 0xC2 ≤ b.toNat ∧ b.toNat ≤ 0xDF then some (2, 0x80, 0xBF)
      else if b.toNat = 0xE0 then some (3, 0xA0, 0xBF)
      else if b.toNat = 0xED then some (3, 0x80, 0x9F)
      else if 0xE1 ≤ b.toNat ∧ b.toNat ≤ 0xEF then some (3, 0x80, 0xBF)
      else if b.toNat = 0xF0 then some (4, 0x90, 0xBF)
      else if 0xF1 ≤ b.toNat ∧ b.toNat ≤ 0xF3 then some (4, 0x80, 0xBF)
      else if b.toNat = 0xF4 then some (4, 0x80, 0x8F)
      else none := by
  simp only [leadByte, UInt8.lt_iff_toNat_lt, UInt8.le_iff_toNat_le, ← UInt8.toNat_inj,
    UInt8.reduceToNat]

theorem mem_bounds_iff {low high b : UInt8} :
    (low ≤ b ∧ b ≤ high) ↔ low.toNat ≤ b.toNat ∧ b.toNat ≤ high.toNat := by
  rw [UInt8.le_iff_toNat_le, UInt8.le_iff_toNat_le]

theorem leadByte_three {b b₂ : UInt8} (hb : 0xE0 ≤ b.toNat ∧ b.toNat ≤ 0xEF)
    (hb₂ : 0x80 ≤ b₂.toNat ∧ b₂.toNat ≤ 0xBF) (hlong : b.toNat = 0xE0 → 0xA0 ≤ b₂.toNat)
    (hsurrogate : b.toNat = 0xED → b₂.toNat ≤ 0x9F) :
    ∃ low high, leadByte b = some (3, low, high) ∧ low ≤ b₂ ∧ b₂ ≤ high := by
  simp only [mem_bounds_iff]
  rw [leadByte_eq, if_neg (by omega), if_neg (by omega)]
  split_ifs with h₁ h₂ h₃
  · exact ⟨_, _, rfl, hlong h₁, hb₂.2⟩
  · exact ⟨_, _, rfl, hb₂.1, hsurrogate h₂⟩
  · exact ⟨_, _, rfl, hb₂⟩
  all_goals omega

theorem leadByte_four {b b₂ : UInt8} (hb : 0xF0 ≤ b.toNat ∧ b.toNat ≤ 0xF4)
    (hb₂ : 0x80 ≤ b₂.toNat ∧ b₂.toNat ≤ 0xBF) (hlong : b.toNat = 0xF0 → 0x90 ≤ b₂.toNat)
    (hlast : b.toNat = 0xF4 → b₂.toNat ≤ 0x8F) :
    ∃ low high, leadByte b = some (4, low, high) ∧ low ≤ b₂ ∧ b₂ ≤ high := by
  simp only [mem_bounds_iff]
  rw [leadByte_eq, if_neg (by omega), if_neg (by omega), if_neg (by omega), if_neg (by omega),
    if_neg (by omega)]
  split_ifs with h₁ h₂ h₃
  · exact ⟨_, _, rfl, hlong h₁, hb₂.2⟩
  · exact ⟨_, _, rfl, hb₂⟩
  · exact ⟨_, _, rfl, hb₂.1, hlast h₃⟩
  · omega

theorem isContinuation_iff {b : UInt8} :
    isContinuation b = true ↔ 0x80 ≤ b.toNat ∧ b.toNat ≤ 0xBF := by
  simp only [isContinuation, Bool.and_eq_true, decide_eq_true_eq]
  exact mem_bounds_iff

/-! ## Characters of one to four bytes -/

section

variable {b b₂ b₃ b₄ : UInt8} (rest : List UInt8) (index : Nat)

theorem decodeFrom_one (hb : b.toNat < 0x80) :
    decodeFrom index (b :: rest) = (decodeFrom (index + 1) rest).map (Char.ofNat b.toNat :: ·) := by
  rw [decodeFrom, leadByte_eq, if_pos hb]
  rfl

theorem decodeFrom_two (hb : 0xC2 ≤ b.toNat ∧ b.toNat ≤ 0xDF)
    (hb₂ : 0x80 ≤ b₂.toNat ∧ b₂.toNat ≤ 0xBF) :
    decodeFrom index (b :: b₂ :: rest) = (decodeFrom (index + 2) rest).map
      (Char.ofNat (b.toNat % 32 * 64 + b₂.toNat % 64) :: ·) := by
  have hbounds : (0x80 : UInt8) ≤ b₂ ∧ b₂ ≤ 0xBF := mem_bounds_iff.mpr hb₂
  rw [decodeFrom, leadByte_eq, if_neg (by omega), if_pos hb]
  simp [hbounds, payload]

theorem decodeFrom_three (hb : 0xE0 ≤ b.toNat ∧ b.toNat ≤ 0xEF)
    (hb₂ : 0x80 ≤ b₂.toNat ∧ b₂.toNat ≤ 0xBF) (hlong : b.toNat = 0xE0 → 0xA0 ≤ b₂.toNat)
    (hsurrogate : b.toNat = 0xED → b₂.toNat ≤ 0x9F) (hb₃ : 0x80 ≤ b₃.toNat ∧ b₃.toNat ≤ 0xBF) :
    decodeFrom index (b :: b₂ :: b₃ :: rest) = (decodeFrom (index + 3) rest).map
      (Char.ofNat (b.toNat % 16 * 4096 + b₂.toNat % 64 * 64 + b₃.toNat % 64) :: ·) := by
  obtain ⟨low, high, hlead, hbounds⟩ := leadByte_three hb hb₂ hlong hsurrogate
  rw [decodeFrom, hlead]
  simp [hbounds, isContinuation_iff.mpr hb₃, payload]

theorem decodeFrom_four (hb : 0xF0 ≤ b.toNat ∧ b.toNat ≤ 0xF4)
    (hb₂ : 0x80 ≤ b₂.toNat ∧ b₂.toNat ≤ 0xBF) (hlong : b.toNat = 0xF0 → 0x90 ≤ b₂.toNat)
    (hlast : b.toNat = 0xF4 → b₂.toNat ≤ 0x8F) (hb₃ : 0x80 ≤ b₃.toNat ∧ b₃.toNat ≤ 0xBF)
    (hb₄ : 0x80 ≤ b₄.toNat ∧ b₄.toNat ≤ 0xBF) :
    decodeFrom index (b :: b₂ :: b₃ :: b₄ :: rest) = (decodeFrom (index + 4) rest).map
      (Char.ofNat (b.toNat % 8 * 262144 + b₂.toNat % 64 * 4096 + b₃.toNat % 64 * 64
        + b₄.toNat % 64) :: ·) := by
  obtain ⟨low, high, hlead, hbounds⟩ := leadByte_four hb hb₂ hlong hlast
  rw [decodeFrom, hlead]
  simp [hbounds, isContinuation_iff.mpr hb₃, isContinuation_iff.mpr hb₄, payload]

end

/-! ## Texts -/

theorem toNat_ofNat {n : Nat} (h : n < 256) : (UInt8.ofNat n).toNat = n :=
  UInt8.toNat_ofNat_of_lt' h

/-- A character is read back from its bytes, whatever follows them. -/
theorem exists_decodeFrom_utf8EncodeChar (c : Char) (rest : List UInt8) (index : Nat) :
    ∃ next, decodeFrom index (String.utf8EncodeChar c ++ rest)
      = (decodeFrom next rest).map (c :: ·) := by
  obtain ⟨n, hn⟩ : ∃ n, c.toNat = n := ⟨_, rfl⟩
  have hvalid : n < 0xD800 ∨ 0xDFFF < n ∧ n < 0x110000 := hn ▸ c.valid
  have hchar : ∀ m, m = n → Char.ofNat m = c := by
    rintro m rfl
    rw [← hn, Char.ofNat_toNat]
  have hcontinuation : ∀ m, (UInt8.ofNat (m % 0x40 + 0x80)).toNat = m % 64 + 0x80 :=
    fun m ↦ toNat_ofNat (by omega)
  unfold String.utf8EncodeChar
  rw [show c.val.toNat = n from hn]
  dsimp only
  -- by the number of bytes; `omega` puts the bits of the bytes together again
  split_ifs with hone htwo hthree
  · have hb : (UInt8.ofNat n).toNat = n := toNat_ofNat (by omega)
    refine ⟨index + 1, ?_⟩
    rw [List.cons_append, decodeFrom_one _ _ (by omega), hchar _ hb]
    rfl
  · have hb : (UInt8.ofNat (n / 64 % 0x20 + 0xc0)).toNat = n / 64 % 32 + 0xc0 :=
      toNat_ofNat (by omega)
    have hb₂ := hcontinuation n
    refine ⟨index + 2, ?_⟩
    rw [List.cons_append, List.cons_append, decodeFrom_two _ _ (by omega) (by omega),
      hchar _ (by omega)]
    rfl
  · have hb : (UInt8.ofNat (n / 4096 % 0x10 + 0xe0)).toNat = n / 4096 % 16 + 0xe0 :=
      toNat_ofNat (by omega)
    have hb₂ := hcontinuation (n / 64)
    have hb₃ := hcontinuation n
    refine ⟨index + 3, ?_⟩
    rw [List.cons_append, List.cons_append, List.cons_append,
      decodeFrom_three _ _ (by omega) (by omega) (by omega) (by omega) (by omega),
      hchar _ (by omega)]
    rfl
  · have hb : (UInt8.ofNat (n / 262144 % 0x08 + 0xf0)).toNat = n / 262144 % 8 + 0xf0 :=
      toNat_ofNat (by omega)
    have hb₂ := hcontinuation (n / 4096)
    have hb₃ := hcontinuation (n / 64)
    have hb₄ := hcontinuation n
    refine ⟨index + 4, ?_⟩
    rw [List.cons_append, List.cons_append, List.cons_append, List.cons_append,
      decodeFrom_four _ _ (by omega) (by omega) (by omega) (by omega) (by omega) (by omega),
      hchar _ (by omega)]
    rfl

theorem decodeFrom_encode (text : List Char) (index : Nat) :
    decodeFrom index (encode text) = .ok text := by
  induction text generalizing index with
  | nil => rfl
  | cons c text ih =>
    obtain ⟨next, hnext⟩ := exists_decodeFrom_utf8EncodeChar c (encode text) index
    rw [encode, List.flatMap_cons]
    change decodeFrom index (String.utf8EncodeChar c ++ encode text) = _
    rw [hnext, ih]
    rfl

/-- **A text is read back from its bytes.** -/
theorem decode_encode (text : List Char) : decode (encode text) = .ok text :=
  decodeFrom_encode text 0

theorem encode_of_ascii {text : List Char} (h : ∀ c ∈ text, c.toNat < 0x80) :
    encode text = text.map fun c ↦ UInt8.ofNat c.toNat := by
  induction text with
  | nil => rfl
  | cons c text ih =>
    obtain ⟨hc, htext⟩ := List.forall_mem_cons.mp h
    have hbyte : String.utf8EncodeChar c = [UInt8.ofNat c.toNat] := by
      have hle : c.val.toNat ≤ 0x7f := Nat.le_of_lt_succ hc
      rw [String.utf8EncodeChar]
      exact if_pos hle
    rw [encode, List.flatMap_cons, hbyte]
    exact congrArg (UInt8.ofNat c.toNat :: ·) (ih htext)

end RunQuery.Text.Utf8

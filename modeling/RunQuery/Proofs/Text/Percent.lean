import RunQuery.Proofs.Text.Utf8
import RunQuery.Text.Percent

/-!
# Percent-encoded text is read back

Every byte is read back from its written form, because a percent sign never stands for itself in
what is written. And what is written has no other characters than those that may stand in a link.
-/

namespace RunQuery.Text.Percent

/-! ## Written bytes -/

/-- A digit of a percent-encoded byte. -/
def isUpperHex (c : Char) : Bool := ('0' ≤ c && c ≤ '9') || ('A' ≤ c && c ≤ 'F')

theorem hexDigit_spec : ∀ n < 16, (hexDigit n).toNat < 0x80 ∧ isUpperHex (hexDigit n) = true ∧
    hexByte? (UInt8.ofNat (hexDigit n).toNat) = some n := by
  decide

theorem isUnreserved_spec : ∀ n < 256, isUnreserved (UInt8.ofNat n) = true →
    n < 0x80 ∧ n ≠ 0x25 ∧ (Char.ofNat n).toNat = n := by
  decide +kernel

/-- A byte as the characters that are written for it, each of them a byte again. -/
def writtenByte (b : UInt8) : List UInt8 := (encodeByte b).map fun c ↦ UInt8.ofNat c.toNat

theorem toNat_lt_of_mem_encodeByte {b : UInt8} {c : Char} (h : c ∈ encodeByte b) :
    c.toNat < 0x80 := by
  have hb : b.toNat < 256 := b.toNat_lt
  rw [encodeByte] at h
  split at h
  · next hplain =>
    obtain rfl := List.mem_singleton.mp h
    rw [← UInt8.ofNat_toNat (x := b)] at hplain
    obtain ⟨hlt, -, heq⟩ := isUnreserved_spec b.toNat hb hplain
    rwa [heq]
  · have hhigh := (hexDigit_spec (b.toNat / 16) (by omega)).1
    have hlow := (hexDigit_spec (b.toNat % 16) (by omega)).1
    simp only [List.mem_cons, List.not_mem_nil, or_false] at h
    obtain rfl | rfl | rfl := h
    · decide
    · exact hhigh
    · exact hlow

theorem decodeBytes_cons {b : UInt8} (rest : List UInt8) (h : b ≠ 0x25) :
    decodeBytes (b :: rest) = b :: decodeBytes rest := by
  rw [decodeBytes.eq_2]
  rintro high low tail rfl
  exact absurd rfl h

theorem decodeBytes_writtenByte (b : UInt8) (rest : List UInt8) :
    decodeBytes (writtenByte b ++ rest) = b :: decodeBytes rest := by
  have hb : b.toNat < 256 := b.toNat_lt
  rw [writtenByte, encodeByte]
  split
  · next hplain =>
    rw [← UInt8.ofNat_toNat (x := b)] at hplain
    obtain ⟨-, hne, heq⟩ := isUnreserved_spec b.toNat hb hplain
    rw [List.map_singleton, List.singleton_append, heq, UInt8.ofNat_toNat, decodeBytes_cons]
    rintro rfl
    exact hne rfl
  · obtain ⟨-, -, hhigh⟩ := hexDigit_spec (b.toNat / 16) (by omega)
    obtain ⟨-, -, hlow⟩ := hexDigit_spec (b.toNat % 16) (by omega)
    change decodeBytes (0x25 :: UInt8.ofNat (hexDigit (b.toNat / 16)).toNat ::
      UInt8.ofNat (hexDigit (b.toNat % 16)).toNat :: rest) = _
    rw [decodeBytes.eq_1, hhigh, hlow]
    dsimp only
    rw [show 16 * (b.toNat / 16) + b.toNat % 16 = b.toNat by omega, UInt8.ofNat_toNat]

/-- **A text is read back from its percent-encoded form.** -/
theorem decode_encode (text : String) : decode (encode text) = .ok text := by
  have hbytes : ∀ bytes : List UInt8, decodeBytes (bytes.flatMap writtenByte) = bytes := by
    intro bytes
    induction bytes with
    | nil => rfl
    | cons b bytes ih => rw [List.flatMap_cons, decodeBytes_writtenByte, ih]
  have hascii : ∀ c ∈ (Utf8.encode text.toList).flatMap encodeByte, c.toNat < 0x80 := by
    intro c hc
    obtain ⟨b, -, hb⟩ := List.mem_flatMap.mp hc
    exact toNat_lt_of_mem_encodeByte hb
  rw [decode, encode, String.toList_ofList, Utf8.encode_of_ascii hascii, List.map_flatMap]
  change (Utf8.decode (decodeBytes ((Utf8.encode text.toList).flatMap writtenByte))).map _ = _
  rw [hbytes, Utf8.decode_encode]
  exact congrArg Except.ok String.ofList_toList

/-! ## The alphabet of links -/

/-- Does a text consist of letters, digits, hyphens, underscores, points and tildes, and of percent
signs with two hexadecimal digits after each? -/
def isLinkText : List Char → Bool
  | '%' :: high :: low :: rest => isUpperHex high && isUpperHex low && isLinkText rest
  | c :: rest => (c.isAlphanum || ['-', '_', '.', '~'].contains c) && isLinkText rest
  | [] => true

theorem isLinkText_cons {c : Char} (rest : List Char)
    (h : (c.isAlphanum || ['-', '_', '.', '~'].contains c) = true) :
    isLinkText (c :: rest) = isLinkText rest := by
  rw [isLinkText.eq_2, h, Bool.true_and]
  rintro high low tail rfl
  exact absurd h (by decide)

theorem isLinkText_encodeByte (b : UInt8) (rest : List Char) :
    isLinkText (encodeByte b ++ rest) = isLinkText rest := by
  have hb : b.toNat < 256 := b.toNat_lt
  rw [encodeByte]
  split
  · next hplain =>
    have hmarks : ∀ n < 256, isUnreserved (UInt8.ofNat n) = true →
        ((Char.ofNat n).isAlphanum || ['-', '_', '.', '~'].contains (Char.ofNat n)) = true := by
      decide +kernel
    rw [← UInt8.ofNat_toNat (x := b)] at hplain
    exact isLinkText_cons rest (hmarks b.toNat hb hplain)
  · have hhigh := (hexDigit_spec (b.toNat / 16) (by omega)).2.1
    have hlow := (hexDigit_spec (b.toNat % 16) (by omega)).2.1
    rw [List.cons_append, List.cons_append, List.cons_append, List.nil_append, isLinkText, hhigh,
      hlow]
    rfl

/-- What is written has only characters that may stand in a link. -/
theorem isLinkText_encode (text : String) : isLinkText (encode text).toList = true := by
  rw [encode, String.toList_ofList]
  induction Utf8.encode text.toList with
  | nil => rfl
  | cons b bytes ih => rw [List.flatMap_cons, isLinkText_encodeByte, ih]

end RunQuery.Text.Percent

import Mathlib.Algebra.Group.Nat.Defs
import Mathlib.Tactic.SplitIfs
import RunQuery.Text.Utf8

/-!
# Texts in the order of their bytes

A character is written as a leading byte and the bytes that continue it, which are the last digits
of its number to the base 64. The leading byte grows with the number of bytes and with the digits
that are left to it. So of two characters the lesser one has the lesser bytes, whatever follows
them, and texts compare as their bytes do.
-/

namespace RunQuery.Text.Utf8

/-- How many bytes continue the character of a number. -/
def trailing (n : Nat) : Nat :=
  if n < 0x80 then 0 else if n < 0x800 then 1 else if n < 0x10000 then 2 else 3

/-- The number of the leading byte of the character of a number. -/
def lead (n : Nat) : Nat :=
  if n < 0x80 then n
  else if n < 0x800 then n / 64 + 0xC0
  else if n < 0x10000 then n / 64 ^ 2 + 0xE0
  else n / 64 ^ 3 + 0xF0

/-- The bytes for the last `k` digits of a number to the base 64. -/
def digits (n : Nat) : Nat → List UInt8
  | 0 => []
  | k + 1 => UInt8.ofNat (n / 64 ^ k % 64 + 0x80) :: digits n k

theorem lead_lt {n : Nat} (h : n < 0x110000) : lead n < 256 := by
  unfold lead
  split_ifs <;> omega

theorem toNat_lt (c : Char) : c.toNat < 0x110000 := by
  have hvalid : c.toNat < 0xD800 ∨ 0xDFFF < c.toNat ∧ c.toNat < 0x110000 := c.valid
  omega

theorem utf8EncodeChar_eq (c : Char) :
    String.utf8EncodeChar c = UInt8.ofNat (lead c.toNat) :: digits c.toNat (trailing c.toNat) := by
  have hvalid := toNat_lt c
  rw [String.utf8EncodeChar, show c.val.toNat = c.toNat from rfl]
  generalize c.toNat = n at *
  rw [lead, trailing]
  -- the leading byte is written with the digits that it has room for, which are all that are left
  have htwo : n < 0x800 → n / 64 % 32 = n / 64 := by omega
  have hthree : n < 0x10000 → n / 4096 % 16 = n / 4096 := by omega
  have hfour : n / 262144 % 8 = n / 262144 := by omega
  split_ifs <;> try omega
  · rfl
  · simp [digits, *]
  · simp [digits, *]
  · simp [digits, hfour]

theorem cons_lt_cons {m n : Nat} (hm : m < n) (hn : n < 256) (s t : List UInt8) :
    UInt8.ofNat m :: s < UInt8.ofNat n :: t := by
  refine List.cons_lt_cons_iff.mpr (.inl ?_)
  rw [UInt8.lt_iff_toNat_lt, UInt8.toNat_ofNat_of_lt' (Nat.lt_trans hm hn),
    UInt8.toNat_ofNat_of_lt' hn]
  exact hm

theorem digits_append_lt {m n : Nat} (k : Nat) (h : m % 64 ^ k < n % 64 ^ k) (s t : List UInt8) :
    digits m k ++ s < digits n k ++ t := by
  induction k with
  | zero => simp [Nat.mod_one] at h
  | succ k ih =>
    rw [Nat.mod_pow_succ, Nat.mod_pow_succ] at h
    rw [digits, digits, List.cons_append, List.cons_append]
    have hn : n % 64 ^ k < 64 ^ k := Nat.mod_lt _ (Nat.pow_pos (by decide))
    obtain hlt | heq | hgt := Nat.lt_trichotomy (m / 64 ^ k % 64) (n / 64 ^ k % 64)
    · exact cons_lt_cons (by omega) (by omega) _ _
    · rw [heq] at h ⊢
      exact List.cons_lt_cons_iff.mpr (.inr ⟨rfl, ih (by omega)⟩)
    · -- a greater digit outweighs all that follow it
      have hdigit : 64 ^ k * (n / 64 ^ k % 64) + 64 ^ k ≤ 64 ^ k * (m / 64 ^ k % 64) :=
        Nat.mul_le_mul_left (64 ^ k) hgt
      omega

theorem lead_lt_or {m n : Nat} (h : m < n) :
    lead m < lead n ∨ lead m = lead n ∧ trailing m = trailing n ∧
      m % 64 ^ trailing n < n % 64 ^ trailing n := by
  unfold lead trailing
  split_ifs <;> omega

/-- Of two characters the lesser one has the lesser bytes, whatever follows them. -/
theorem utf8EncodeChar_append_lt {c d : Char} (h : c < d) (s t : List UInt8) :
    String.utf8EncodeChar c ++ s < String.utf8EncodeChar d ++ t := by
  have hnumber : c.toNat < d.toNat := h
  rw [utf8EncodeChar_eq, utf8EncodeChar_eq, List.cons_append, List.cons_append]
  obtain hlead | ⟨hlead, htrailing, hdigits⟩ := lead_lt_or hnumber
  · exact cons_lt_cons hlead (lead_lt (toNat_lt d)) _ _
  · rw [hlead, htrailing]
    exact List.cons_lt_cons_iff.mpr (.inr ⟨rfl, digits_append_lt _ hdigits _ _⟩)

theorem encode_cons (c : Char) (text : List Char) :
    encode (c :: text) = String.utf8EncodeChar c ++ encode text :=
  List.flatMap_cons

theorem encode_lt_encode {s t : List Char} (h : s < t) : encode s < encode t := by
  induction h with
  | nil =>
    rw [encode_cons, utf8EncodeChar_eq]
    exact List.nil_lt_cons _ _
  | rel hfirst =>
    rw [encode_cons, encode_cons]
    exact utf8EncodeChar_append_lt hfirst _ _
  | cons _ ih =>
    rw [encode_cons, encode_cons]
    exact List.append_left_lt ih

/-- **Texts are in the order of their bytes.** -/
theorem compare_eq_lt_iff {s t : String} :
    compare s t = .lt ↔ encode s.toList < encode t.toList := by
  have hencode : ∀ {s t : String}, compare s t = .lt → encode s.toList < encode t.toList := by
    intro s t h
    have hlt : s < t := compareOfLessAndEq_eq_lt.mp h
    exact encode_lt_encode hlt
  refine ⟨hencode, fun h ↦ ?_⟩
  cases hst : compare s t with
  | lt => rfl
  | eq =>
    obtain rfl := Std.LawfulEqCmp.eq_of_compare hst
    exact absurd h (List.lt_irrefl _)
  | gt => exact absurd h (List.lt_asymm (hencode (Std.OrientedCmp.lt_of_gt hst)))

end RunQuery.Text.Utf8

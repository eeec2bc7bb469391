import RunQuery.Proofs.Calendar
import RunQuery.Proofs.Decimal.Layout
import RunQuery.Timestamp

/-!
# Instants as texts and back

The text of an instant is in the standard notation if its year has four digits, and then it is read
as the instant cut to milliseconds. So exactly the instants that are whole milliseconds of such a
year are read back from their texts, leap seconds included.
-/

namespace RunQuery

/-! ## Numbers of a fixed width -/

namespace Decimal

variable {width n : Nat}

theorem length_padded (hwidth : 0 < width) (h : n < 10 ^ width) :
    (padded width n).length = width := by
  have hlength : (digits n).length ≤ width :=
    (Nat.length_toDigits_le_iff (by norm_num) hwidth).mpr h
  rw [padded, List.length_append, List.length_replicate, Nat.sub_add_cancel hlength]

theorem ofDigits_padded (width n : Nat) : ofDigits (padded width n) = n := by
  simp [padded, ofDigits_append]

theorem isDigit_of_mem_padded {c : Char} (h : c ∈ padded width n) : isDigit c = true :=
  (List.mem_append.mp h).elim isDigit_of_mem_zeros isDigit_of_mem_digits

end Decimal

theorem Instant.eq_of_parts {i j : Instant} (hday : i.day = j.day) (hsecond : i.second = j.second)
    (hnano : i.nano = j.nano) : i = j := by
  obtain ⟨day, second, nano, _, _, _⟩ := i
  obtain ⟨day', second', nano', _, _, _⟩ := j
  cases hday
  cases hsecond
  cases hnano
  rfl

namespace Timestamp

open Decimal

theorem bind_of_eq_some {α β : Type} {part : Option α} {a : α} (h : part = some a)
    (f : α → Option β) : part >>= f = f a := by
  rw [h]
  rfl

theorem skip?_cons (c : Char) (rest : List Char) : skip? c (c :: rest) = some rest := if_pos rfl

theorem fixed?_padded {width n : Nat} (hwidth : 0 < width) (h : n < 10 ^ width)
    (rest : List Char) : fixed? width (padded width n ++ rest) = some (n, rest) := by
  have hlength := length_padded hwidth h
  rw [fixed?, List.take_left' hlength, List.drop_left' hlength, ofDigits_padded, if_pos]
  exact ⟨hlength, List.all_eq_true.mpr fun c hc ↦ isDigit_of_mem_padded hc⟩

theorem fraction?_padded {n : Nat} (h : n < 10 ^ 3) (rest : List Char) :
    fraction? ('.' :: (padded 3 n ++ 'Z' :: rest)) = some (n * 1000000, 'Z' :: rest) := by
  have hdigits : ∀ c ∈ padded 3 n, isDigit c = true := fun c hc ↦ isDigit_of_mem_padded hc
  have hrest : ∀ c ∈ ('Z' :: rest).head?, isDigit c = false := by
    rintro c ⟨⟩
    decide
  have hlength : (padded 3 n).length = 3 := length_padded (by decide) h
  have hnanos : nanosOfDigits (padded 3 n) = n * 1000000 := by
    rw [nanosOfDigits, List.take_of_length_le (by rw [hlength]; decide), ofDigits_padded, hlength]
  have hne : (padded 3 n).isEmpty = false := by
    rw [List.isEmpty_eq_false_iff_exists_mem]
    exact List.exists_mem_of_length_pos (by rw [hlength]; decide)
  rw [fraction?, takeWhile_digits hdigits hrest, dropWhile_digits hdigits hrest, hnanos]
  simp only [hne, Bool.false_eq_true, if_false]

/-- What the standard notation is read as, for universal time and milliseconds. -/
theorem standard?_padded {year month day hour minute second millis : Nat} (hyear : year < 10 ^ 4)
    (hmonth : month < 10 ^ 2) (hday : day < 10 ^ 2) (hhour : hour < 10 ^ 2)
    (hminute : minute < 10 ^ 2) (hsecond : second < 10 ^ 2) (hmillis : millis < 10 ^ 3) :
    standard? (padded 4 year ++ '-' :: (padded 2 month ++ '-' :: (padded 2 day ++
      'T' :: (padded 2 hour ++ ':' :: (padded 2 minute ++ ':' :: (padded 2 second ++
      '.' :: (padded 3 millis ++ ['Z'])))))))
      = instant? ⟨year, month, day⟩ hour minute second (millis * 1000000) 0 := by
  have htwo : (0 : Nat) < 2 := by decide
  -- part by part; rewriting under all the parts that are still to come is slow
  rw [standard?]
  refine (bind_of_eq_some (fixed?_padded (by decide) hyear _) _).trans ?_
  refine (bind_of_eq_some (skip?_cons ..) _).trans ?_
  refine (bind_of_eq_some (fixed?_padded htwo hmonth _) _).trans ?_
  refine (bind_of_eq_some (skip?_cons ..) _).trans ?_
  refine (bind_of_eq_some (fixed?_padded htwo hday _) _).trans ?_
  refine (bind_of_eq_some List.head?_cons _).trans ?_
  refine (bind_of_eq_some (fixed?_padded htwo hhour _) _).trans ?_
  refine (bind_of_eq_some (skip?_cons ..) _).trans ?_
  refine (bind_of_eq_some (fixed?_padded htwo hminute _) _).trans ?_
  refine (bind_of_eq_some (skip?_cons ..) _).trans ?_
  refine (bind_of_eq_some (fixed?_padded htwo hsecond _) _).trans ?_
  refine (bind_of_eq_some (fraction?_padded hmillis _) _).trans ?_
  rfl

theorem fixed?_cons_eq_none {c : Char} (h : isDigit c = false) (width : Nat) (rest : List Char) :
    fixed? (width + 1) (c :: rest) = none := by
  rw [fixed?, List.take_succ_cons, List.all_cons, h, Bool.false_and]
  exact if_neg fun hc ↦ Bool.false_ne_true hc.2

theorem instant?_eq_some {i : Instant} {date : Date} (hvalid : date.isValid = true)
    (hyear : yearRange.1 ≤ date.year ∧ date.year ≤ yearRange.2) {hour minute second nano : Nat}
    (hhour : hour < 24) (hminute : minute < 60) (hsecond : second ≤ 60)
    (hnano : nano < nanosPerSecond) (hday : i.day = date.toNumber)
    (hofDay : i.second = (hour * 60 + minute) * 60 + if second = 60 then 59 else second)
    (hofSecond : i.nano = nano + if second = 60 then nanosPerSecond else 0) :
    instant? date hour minute second nano 0 = some i := by
  -- in universal time there is nothing to carry over from the minutes to the days
  have hdays : i.day = (date.toNumber * 1440 + (hour * 60 + minute : Nat) - 0) / 1440 := by omega
  have hminutes : ((date.toNumber * 1440 + (hour * 60 + minute : Nat) - 0) % 1440).toNat
      = hour * 60 + minute := by omega
  rw [instant?, dif_pos ⟨hhour, hminute, hsecond, hnano⟩, if_pos]
  · dsimp only
    split
    · next hleap =>
      rw [if_pos hleap] at hofDay hofSecond
      rw [← hminutes] at hofDay
      exact congrArg some (Instant.eq_of_parts hdays hofDay hofSecond).symm
    · next hplain =>
      rw [if_neg hplain] at hofDay hofSecond
      rw [← hminutes] at hofDay
      exact congrArg some (Instant.eq_of_parts hdays hofDay hofSecond).symm
  · simp only [hvalid, hyear, Bool.true_and, decide_true]

end Timestamp

namespace Instant

open Timestamp

/-- The instant cut to whole milliseconds. -/
def cutToMillis (i : Instant) : Instant where
  day := i.day
  second := i.second
  nano := i.nano / 1000000 * 1000000
  second_lt := i.second_lt
  nano_lt := Nat.lt_of_le_of_lt (Nat.div_mul_le_self ..) i.nano_lt
  leap h := i.leap (Nat.le_trans h (Nat.div_mul_le_self ..))

theorem cutToMillis_eq_self_iff {i : Instant} : i.cutToMillis = i ↔ i.nano % 1000000 = 0 := by
  constructor
  · intro h
    rw [← h]
    exact Nat.mul_mod_left ..
  · intro h
    exact eq_of_parts rfl rfl (Nat.div_mul_cancel (Nat.dvd_of_mod_eq_zero h))

/-- Is the year of the instant written in four digits? -/
def HasShortYear (i : Instant) : Prop :=
  0 ≤ (Date.ofNumber i.day).year ∧ (Date.ofNumber i.day).year ≤ 9999

instance (i : Instant) : Decidable i.HasShortYear := inferInstanceAs (Decidable (_ ∧ _))

/-- The second of the minute as it is written, 60 for a leap second. -/
def writtenSecond (i : Instant) : Nat :=
  i.second % 60 + if nanosPerSecond ≤ i.nano then 1 else 0

theorem writtenSecond_eq_sixty_iff {i : Instant} :
    i.writtenSecond = 60 ↔ nanosPerSecond ≤ i.nano := by
  have hleap := i.leap
  rw [writtenSecond]
  split
  · next h =>
    have := hleap h
    exact iff_of_true (by omega) h
  · next h => exact iff_of_false (by omega) h

theorem writtenSecond_le (i : Instant) : i.writtenSecond ≤ 60 := by
  have hlt := Nat.mod_lt i.second (by decide : 0 < 60)
  rw [writtenSecond]
  split
  · omega
  · omega

theorem second_eq (i : Instant) :
    i.second = (i.second / 3600 * 60 + i.second / 60 % 60) * 60
      + if i.writtenSecond = 60 then 59 else i.writtenSecond := by
  simp only [writtenSecond_eq_sixty_iff]
  split
  · next h =>
    -- a leap second is the last one of its minute
    have := i.leap h
    omega
  · next h =>
    rw [writtenSecond, if_neg h]
    omega

theorem nano_cutToMillis (i : Instant) :
    i.cutToMillis.nano = i.nano % nanosPerSecond / 1000000 * 1000000
      + if i.writtenSecond = 60 then nanosPerSecond else 0 := by
  have hlt := i.nano_lt
  simp only [writtenSecond_eq_sixty_iff, cutToMillis]
  split
  · next h =>
    simp only [nanosPerSecond] at h hlt ⊢
    omega
  · next h =>
    simp only [nanosPerSecond] at h ⊢
    omega

theorem HasShortYear.standard?_text {i : Instant} (h : i.HasShortYear) :
    standard? i.text.toList = some i.cutToMillis := by
  have hvalid := Date.isValid_ofNumber i.day
  have hmonth := Date.month_le_of_isValid hvalid
  have hday := Date.day_le_of_isValid hvalid
  have hhour : i.second / 3600 < 24 := Nat.div_lt_of_lt_mul i.second_lt
  have hminute : i.second / 60 % 60 < 60 := Nat.mod_lt _ (by decide)
  have hnano : i.nano % nanosPerSecond < nanosPerSecond := Nat.mod_lt _ (by decide)
  have hmillis : i.nano % nanosPerSecond / 1000000 < 10 ^ 3 := Nat.div_lt_of_lt_mul hnano
  obtain ⟨hyear₀, hyear₁⟩ := h
  have hrange : yearRange.1 ≤ (Date.ofNumber i.day).year ∧
      (Date.ofNumber i.day).year ≤ yearRange.2 := by
    simp only [yearRange]
    omega
  rw [text, String.toList_ofList, yearText, if_pos ⟨hyear₀, hyear₁⟩]
  simp only [List.append_assoc, List.cons_append]
  rw [← writtenSecond, standard?_padded (by omega) (by omega) (by omega) (by omega) (by omega)
    (Nat.lt_of_le_of_lt i.writtenSecond_le (by decide)) hmillis, Int.toNat_of_nonneg hyear₀]
  exact instant?_eq_some hvalid hrange hhour hminute i.writtenSecond_le
    (Nat.lt_of_le_of_lt (Nat.div_mul_le_self ..) hnano) (Date.toNumber_ofNumber i.day).symm
    i.second_eq i.nano_cutToMillis

/-- Texts of other years begin with a sign and are not in the standard notation. -/
theorem standard?_text_of_not_hasShortYear {i : Instant} (h : ¬i.HasShortYear) :
    standard? i.text.toList = none := by
  have hsign : Decimal.isDigit (if (Date.ofNumber i.day).year < 0 then '-' else '+') = false := by
    split
    · decide
    · decide
  rw [HasShortYear] at h
  rw [text, String.toList_ofList, yearText, if_neg h]
  simp only [List.append_assoc, List.cons_append]
  rw [standard?, fixed?_cons_eq_none hsign 3]
  rfl

/-- Is the instant a whole number of milliseconds of a year with four digits? -/
structure IsExact (i : Instant) : Prop where
  /-- The year has four digits. -/
  hasShortYear : i.HasShortYear
  /-- There is nothing beyond the milliseconds. -/
  whole : i.nano % 1000000 = 0

/-- **Exactly the whole milliseconds of years with four digits are read back from their texts.** -/
theorem standard?_text_eq_some_iff {i : Instant} :
    standard? i.text.toList = some i ↔ i.IsExact := by
  by_cases h : i.HasShortYear
  · rw [h.standard?_text, Option.some.injEq, cutToMillis_eq_self_iff]
    exact ⟨fun hwhole ↦ ⟨h, hwhole⟩, IsExact.whole⟩
  · rw [standard?_text_of_not_hasShortYear h]
    exact iff_of_false nofun fun hexact ↦ h hexact.hasShortYear

end Instant

end RunQuery

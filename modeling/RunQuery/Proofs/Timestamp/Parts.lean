import Mathlib.Data.List.TakeWhile
import RunQuery.Timestamp

/-!
# The parts of a timestamp

A text in the standard notation falls into a date, a separator, a time of day and a zone, each with
characters of its own. In both notations the time of day has two colons, and all that may have
another is a zone.
-/

namespace RunQuery.Timestamp

open Decimal (isDigit)

variable {text rest : List Char}

/-! ## Characters -/

/-- Is the character one that times of day are written with? -/
def IsOfTime (c : Char) : Prop := isDigit c = true ∨ c = ':' ∨ c = '.'

theorem ne_of_isDigit {c d : Char} (h : isDigit c = true) (hd : isDigit d = false) : c ≠ d := by
  rintro rfl
  rw [h] at hd
  cases hd

theorem IsOfTime.ne {c d : Char} (h : IsOfTime c) (hdigit : isDigit d = false) (hcolon : d ≠ ':')
    (hpoint : d ≠ '.') : c ≠ d := by
  rcases h with h | rfl | rfl
  · exact ne_of_isDigit h hdigit
  · exact hcolon.symm
  · exact hpoint.symm

theorem IsOfTime.ne_letter {c : Char} (h : IsOfTime c) : c ≠ 'T' ∧ c ≠ 'Z' ∧ c ≠ 'z' :=
  ⟨h.ne rfl (by decide) (by decide), h.ne rfl (by decide) (by decide),
    h.ne rfl (by decide) (by decide)⟩

theorem count_colon_eq_zero (h : ∀ c ∈ text, c ≠ ':') : text.count ':' = 0 :=
  List.count_eq_zero.mpr fun hc ↦ h ':' hc rfl

/-! ## What a part takes from a text -/

theorem eq_cons_of_skip? {c : Char} (h : skip? c text = some rest) : text = c :: rest := by
  cases text with
  | nil => cases h
  | cons d text =>
    rw [skip?] at h
    split at h
    · next heq =>
      obtain rfl := Option.some.inj h
      rw [heq]
    · cases h

theorem exists_of_fixed? {width n : Nat} (h : fixed? width text = some (n, rest)) :
    ∃ ds, text = ds ++ rest ∧ ds.length = width ∧ ∀ c ∈ ds, isDigit c = true := by
  rw [fixed?] at h
  split at h
  · next hdigits =>
    obtain ⟨-, rfl⟩ := Prod.mk.inj (Option.some.inj h)
    exact ⟨text.take width, (List.take_append_drop width text).symm, hdigits.1,
      List.all_eq_true.mp hdigits.2⟩
  · cases h

theorem exists_of_number? {width n : Nat} (h : number? width text = some (n, rest)) :
    ∃ ds, text = ds ++ rest ∧ ∀ c ∈ ds, isDigit c = true := by
  rw [number?] at h
  split at h
  · cases h
  · obtain ⟨-, rfl⟩ := Prod.mk.inj (Option.some.inj h)
    have hprefix : (text.takeWhile isDigit).take width <+: text :=
      (List.take_prefix width _).trans (List.takeWhile_prefix isDigit)
    refine ⟨(text.takeWhile isDigit).take width, ?_, fun c hc ↦ ?_⟩
    · exact (List.prefix_iff_eq_append.mp hprefix).symm
    · exact List.mem_takeWhile_imp (List.mem_of_mem_take hc)

theorem exists_of_fraction? {n : Nat} (h : fraction? text = some (n, rest)) :
    ∃ front, text = front ++ rest ∧ ∀ c ∈ front, IsOfTime c ∧ c ≠ ':' := by
  unfold fraction? at h
  split at h
  · next digits =>
    dsimp only at h
    split at h
    · cases h
    · obtain ⟨-, rfl⟩ := Prod.mk.inj (Option.some.inj h)
      refine ⟨'.' :: digits.takeWhile isDigit, ?_, ?_⟩
      · rw [List.cons_append, List.takeWhile_append_dropWhile]
      · intro c hc
        rcases List.mem_cons.mp hc with rfl | hc
        · exact ⟨.inr (.inr rfl), by decide⟩
        · have hdigit := List.mem_takeWhile_imp hc
          exact ⟨.inl hdigit, ne_of_isDigit hdigit rfl⟩
  · obtain ⟨-, rfl⟩ := Prod.mk.inj (Option.some.inj h)
    exact ⟨[], rfl, nofun⟩

/-- The notation of a zone: a letter for universal time, or a sign, hours and minutes. -/
inductive IsZone : List Char → Prop
  | letter {c : Char} (h : c = 'Z' ∨ c = 'z') : IsZone [c]
  | offset {sign : Char} {hours minutes : List Char}
      (hsign : sign = '+' ∨ sign = '-' ∨ sign = '\u2212')
      (hhours : ∀ c ∈ hours, isDigit c = true) (hminutes : ∀ c ∈ minutes, isDigit c = true)
      (hne : minutes ≠ []) : IsZone (sign :: (hours ++ ':' :: minutes))

theorem exists_of_zone? {offset : Int} (h : zone? text = some (offset, rest)) :
    ∃ front, text = front ++ rest ∧ IsZone front := by
  unfold zone? at h
  split at h
  · obtain ⟨-, rfl⟩ := Prod.mk.inj (Option.some.inj h)
    exact ⟨['Z'], rfl, .letter (.inl rfl)⟩
  · obtain ⟨-, rfl⟩ := Prod.mk.inj (Option.some.inj h)
    exact ⟨['z'], rfl, .letter (.inr rfl)⟩
  · next sign text _ _ =>
    -- whatever the sign, the same is read behind it
    have hsign : (sign = '+' ∨ sign = '-' ∨ sign = '\u2212') ∧ ∃ negative : Bool,
        ((fixed? 2 text).bind fun hours ↦ (skip? ':' hours.2).bind fun text ↦
          (fixed? 2 text).bind fun minutes ↦
            if hours.1 < 24 ∧ minutes.1 < 60 then
              some (if negative then -((hours.1 * 60 + minutes.1 : Nat) : Int)
                else (hours.1 * 60 + minutes.1 : Nat), minutes.2)
            else none) = some (offset, rest) := by
      dsimp only at h
      split at h
      · next heq => exact ⟨.inl heq, false, h⟩
      · split at h
        · next heq => exact ⟨.inr heq, true, h⟩
        · cases h
    clear h
    obtain ⟨hsign, negative, h⟩ := hsign
    simp only [Option.bind_eq_some_iff, Prod.exists] at h
    obtain ⟨hours, afterHours, hhours, beforeMinutes, hcolon, minutes, last, hminutes, h⟩ := h
    obtain ⟨hs, rfl, -, hhs⟩ := exists_of_fixed? hhours
    obtain rfl := eq_cons_of_skip? hcolon
    obtain ⟨ms, rfl, hlength, hms⟩ := exists_of_fixed? hminutes
    have hne : ms ≠ [] := by
      rintro rfl
      cases hlength
    by_cases hrange : hours < 24 ∧ minutes < 60
    · rw [if_pos hrange] at h
      obtain ⟨-, rfl⟩ := Prod.mk.inj (Option.some.inj h)
      refine ⟨sign :: (hs ++ ':' :: ms), ?_, .offset hsign hhs hms hne⟩
      simp only [List.cons_append, List.append_assoc]
    · rw [if_neg hrange] at h
      cases h
  · cases h

/-! ## The parts of a text -/

/-- The parts of a text in the standard notation, as far as their characters go. -/
structure AreParts (date : List Char) (separator : Char) (time zone : List Char) : Prop where
  /-- A date has ten characters. -/
  length_date : date.length = 10
  /-- They are digits and hyphens. -/
  mem_date : ∀ c ∈ date, isDigit c = true ∨ c = '-'
  /-- The separator is a letter or a blank. -/
  isSeparator : isSeparator separator = true
  /-- A time is written with digits, colons and a point. -/
  mem_time : ∀ c ∈ time, IsOfTime c
  /-- It has hours, minutes and seconds. -/
  count_time : time.count ':' = 2
  /-- A zone is a letter or an offset. -/
  isZone : IsZone zone

theorem forall_mem_date {years months days : List Char} (hyears : ∀ c ∈ years, isDigit c = true)
    (hmonths : ∀ c ∈ months, isDigit c = true) (hdays : ∀ c ∈ days, isDigit c = true) :
    ∀ c ∈ years ++ '-' :: (months ++ '-' :: days), isDigit c = true ∨ c = '-' := by
  rw [List.forall_mem_append, List.forall_mem_cons, List.forall_mem_append, List.forall_mem_cons]
  exact ⟨fun c hc ↦ .inl (hyears c hc), .inr rfl, fun c hc ↦ .inl (hmonths c hc), .inr rfl,
    fun c hc ↦ .inl (hdays c hc)⟩

section

variable {hours minutes seconds front : List Char} (hhours : ∀ c ∈ hours, isDigit c = true)
  (hminutes : ∀ c ∈ minutes, isDigit c = true) (hseconds : ∀ c ∈ seconds, isDigit c = true)

include hhours hminutes hseconds

theorem forall_mem_time (hfront : ∀ c ∈ front, IsOfTime c) :
    ∀ c ∈ hours ++ ':' :: (minutes ++ ':' :: (seconds ++ front)), IsOfTime c := by
  rw [List.forall_mem_append, List.forall_mem_cons, List.forall_mem_append, List.forall_mem_cons,
    List.forall_mem_append]
  exact ⟨fun c hc ↦ .inl (hhours c hc), .inr (.inl rfl), fun c hc ↦ .inl (hminutes c hc),
    .inr (.inl rfl), fun c hc ↦ .inl (hseconds c hc), hfront⟩

theorem count_colon_time (hfront : ∀ c ∈ front, c ≠ ':') :
    (hours ++ ':' :: (minutes ++ ':' :: (seconds ++ front))).count ':' = 2 := by
  rw [List.count_append, List.count_cons_self, List.count_append, List.count_cons_self,
    List.count_append, count_colon_eq_zero fun c hc ↦ ne_of_isDigit (hhours c hc) rfl,
    count_colon_eq_zero fun c hc ↦ ne_of_isDigit (hminutes c hc) rfl,
    count_colon_eq_zero fun c hc ↦ ne_of_isDigit (hseconds c hc) rfl,
    count_colon_eq_zero hfront]

end

theorem exists_parts_of_standard? {i : Instant} (h : standard? text = some i) :
    ∃ date separator time zone, text = date ++ separator :: (time ++ zone) ∧
      AreParts date separator time zone := by
  simp only [standard?, Option.bind_eq_bind, Option.bind_eq_some_iff, Prod.exists] at h
  obtain ⟨year, afterYear, hyear, beforeMonth, hskip₁, month, afterMonth, hmonth, beforeDay, hskip₂,
    day, afterDay, hday, separator, hseparator, h⟩ := h
  have hallowed : isSeparator separator = true := by
    by_contra hnot
    rw [if_pos (by simpa using hnot)] at h
    cases h
  rw [if_neg (by simp [hallowed])] at h
  simp only [Option.bind_eq_some_iff, Prod.exists] at h
  obtain ⟨hour, afterHour, hhour, beforeMinute, hskip₃, minute, afterMinute, hminute, beforeSecond,
    hskip₄, second, afterSecond, hsecond, nano, afterFraction, hfraction, offset, afterZone, hzone,
    h⟩ := h
  have hend : afterZone = [] := by
    by_contra hnot
    rw [if_neg (by simpa using hnot)] at h
    cases h
  subst hend
  -- each part in turn takes its characters and leaves the text to the next one
  obtain ⟨years, rfl, hyears, hyears'⟩ := exists_of_fixed? hyear
  obtain rfl := eq_cons_of_skip? hskip₁
  obtain ⟨months, rfl, hmonths, hmonths'⟩ := exists_of_fixed? hmonth
  obtain rfl := eq_cons_of_skip? hskip₂
  obtain ⟨days, rfl, hdays, hdays'⟩ := exists_of_fixed? hday
  obtain ⟨time, rfl⟩ := List.head?_eq_some_iff.mp hseparator
  rw [List.tail_cons] at hhour
  obtain ⟨hours, rfl, -, hhours⟩ := exists_of_fixed? hhour
  obtain rfl := eq_cons_of_skip? hskip₃
  obtain ⟨minutes, rfl, -, hminutes⟩ := exists_of_fixed? hminute
  obtain rfl := eq_cons_of_skip? hskip₄
  obtain ⟨seconds, rfl, -, hseconds⟩ := exists_of_fixed? hsecond
  obtain ⟨front, rfl, hfront⟩ := exists_of_fraction? hfraction
  obtain ⟨zone, rfl, hisZone⟩ := exists_of_zone? hzone
  refine ⟨years ++ '-' :: (months ++ '-' :: days), separator,
    hours ++ ':' :: (minutes ++ ':' :: (seconds ++ front)), zone, ?_, ?_⟩
  · simp only [List.append_assoc, List.cons_append, List.append_nil]
  · exact {
      length_date := by simp only [List.length_append, List.length_cons, hyears, hmonths, hdays]
      mem_date := forall_mem_date hyears' hmonths' hdays'
      isSeparator := hallowed
      mem_time := forall_mem_time hhours hminutes hseconds fun c hc ↦ (hfront c hc).1
      count_time := count_colon_time hhours hminutes hseconds fun c hc ↦ (hfront c hc).2
      isZone := hisZone }

/-! ## What tells the parts apart -/

variable {date time zone : List Char} {separator : Char}

theorem AreParts.separator_cases (h : AreParts date separator time zone) :
    separator = 'T' ∨ separator = 't' ∨ separator = ' ' := by
  have hseparator := h.isSeparator
  simp only [Timestamp.isSeparator, Bool.or_eq_true, beq_iff_eq, or_assoc] at hseparator
  exact hseparator

theorem AreParts.ne_of_mem_date (h : AreParts date separator time zone) {d : Char}
    (hdigit : isDigit d = false) (hhyphen : d ≠ '-') : ∀ c ∈ date, c ≠ d := by
  intro c hc
  rcases h.mem_date c hc with hc | rfl
  · exact ne_of_isDigit hc hdigit
  · exact hhyphen.symm

theorem AreParts.count_colon (h : AreParts date separator time zone) :
    (date ++ separator :: (time ++ zone)).count ':' = 2 + zone.count ':' := by
  have hseparator : separator ≠ ':' := by
    rcases h.separator_cases with rfl | rfl | rfl <;> decide
  rw [List.count_append, count_colon_eq_zero (h.ne_of_mem_date rfl (by decide)),
    List.count_cons_of_ne hseparator, List.count_append, h.count_time, Nat.zero_add]

theorem getLast?_letter {c : Char} (h : c = 'Z' ∨ c = 'z') (date : List Char) (separator : Char)
    (time : List Char) :
    (date ++ separator :: (time ++ [c])).getLast? = some 'Z' ∨
      (date ++ separator :: (time ++ [c])).getLast? = some 'z' := by
  rw [← List.cons_append, ← List.append_assoc, List.getLast?_concat]
  exact h.imp (congrArg some) (congrArg some)

/-- An offset ends in a digit. -/
theorem exists_getLast?_offset (front : List Char) (sign : Char) (hours : List Char)
    {minutes : List Char} (hminutes : ∀ c ∈ minutes, isDigit c = true) (hne : minutes ≠ []) :
    ∃ c, isDigit c = true ∧
      (front ++ sign :: (hours ++ ':' :: minutes)).getLast? = some c := by
  have hsplit : front ++ sign :: (hours ++ ':' :: minutes)
      = (front ++ sign :: (hours ++ [':'])) ++ minutes := by simp
  refine ⟨minutes.getLast hne, hminutes _ (List.getLast_mem hne), ?_⟩
  rw [hsplit, List.getLast?_append, List.getLast?_eq_some_getLast hne, Option.some_or]

theorem isOfTime_of_mem_offset {hours minutes : List Char} (hhours : ∀ c ∈ hours, isDigit c = true)
    (hminutes : ∀ c ∈ minutes, isDigit c = true) : ∀ c ∈ hours ++ ':' :: minutes, IsOfTime c := by
  rw [List.forall_mem_append, List.forall_mem_cons]
  exact ⟨fun c hc ↦ .inl (hhours c hc), .inr (.inl rfl), fun c hc ↦ .inl (hminutes c hc)⟩

/-- A zone with a colon is an offset, which ends in a digit. -/
theorem IsZone.cases (h : IsZone zone) :
    (∃ c, zone = [c] ∧ (c = 'Z' ∨ c = 'z')) ∨
      zone.count ':' = 1 ∧
        ∀ front, ∃ c, isDigit c = true ∧ (front ++ zone).getLast? = some c := by
  rcases h with ⟨hletter⟩ | ⟨hsign, hhours, hminutes, hne⟩
  · exact .inl ⟨_, rfl, hletter⟩
  · next sign hours minutes =>
    have hcolon : sign ≠ ':' := by
      rcases hsign with rfl | rfl | rfl <;> decide
    refine .inr ⟨?_, fun front ↦ exists_getLast?_offset front sign hours hminutes hne⟩
    rw [List.count_cons_of_ne hcolon, List.count_append, List.count_cons_self,
      count_colon_eq_zero fun c hc ↦ ne_of_isDigit (hhours c hc) rfl,
      count_colon_eq_zero fun c hc ↦ ne_of_isDigit (hminutes c hc) rfl]

theorem IsZone.eq_of_append (h : IsZone zone)
    (htext : text ++ ['Z'] = date ++ separator :: (time ++ zone)) : zone = ['Z'] := by
  rw [← List.cons_append, ← List.append_assoc] at htext
  rcases h.cases with ⟨c, rfl, -⟩ | ⟨-, hlast⟩
  · exact (List.append_inj' htext rfl).2.symm
  · obtain ⟨c, hc, hlast⟩ := hlast (date ++ separator :: time)
    rw [← htext, List.getLast?_concat] at hlast
    obtain rfl := Option.some.inj hlast
    cases hc

/-! ## Colons of the loose notation -/

theorem count_colon_trimStart (text : List Char) :
    (trimStart text).count ':' = text.count ':' := by
  have hblank : ∀ c ∈ text.takeWhile Unicode.isWhiteSpace, c ≠ ':' := by
    intro c hc
    have hspace := List.mem_takeWhile_imp hc
    rintro rfl
    exact absurd hspace (by decide)
  calc (trimStart text).count ':'
      = (text.takeWhile Unicode.isWhiteSpace ++ trimStart text).count ':' := by
        rw [List.count_append, count_colon_eq_zero hblank, Nat.zero_add]
    _ = text.count ':' := by rw [trimStart, List.takeWhile_append_dropWhile]

theorem count_colon_of_number? {width n : Nat} (h : number? width text = some (n, rest)) :
    text.count ':' = rest.count ':' := by
  obtain ⟨ds, rfl, hds⟩ := exists_of_number? h
  rw [List.count_append, count_colon_eq_zero fun c hc ↦ ne_of_isDigit (hds c hc) rfl, Nat.zero_add]

theorem count_colon_of_looseField? {n : Nat} (h : looseField? text = some (n, rest)) :
    text.count ':' = rest.count ':' := by
  rw [← count_colon_trimStart, count_colon_of_number? h]

theorem count_colon_of_fraction? {n : Nat} (h : fraction? text = some (n, rest)) :
    text.count ':' = rest.count ':' := by
  obtain ⟨front, rfl, hfront⟩ := exists_of_fraction? h
  rw [List.count_append, count_colon_eq_zero fun c hc ↦ (hfront c hc).2, Nat.zero_add]

theorem count_colon_of_looseYear? {year : Int} (h : looseYear? text = some (year, rest)) :
    text.count ':' = rest.count ':' := by
  rw [← count_colon_trimStart]
  unfold looseYear? at h
  split at h
  · next digits heq =>
    obtain ⟨⟨n, digits⟩, hn, heq'⟩ := Option.map_eq_some_iff.mp h
    obtain ⟨-, rfl⟩ := Prod.mk.inj heq'
    rw [heq, List.count_cons_of_ne (by decide), count_colon_of_number? hn]
  · next digits heq =>
    obtain ⟨⟨n, digits⟩, hn, heq'⟩ := Option.map_eq_some_iff.mp h
    obtain ⟨-, rfl⟩ := Prod.mk.inj heq'
    rw [heq, List.count_cons_of_ne (by decide), count_colon_of_number? hn]
  · obtain ⟨⟨n, digits⟩, hn, heq'⟩ := Option.map_eq_some_iff.mp h
    obtain ⟨-, rfl⟩ := Prod.mk.inj heq'
    rw [count_colon_of_number? hn]

/-- A text in the loose notation has the two colons of its time of day and no other. -/
theorem count_colon_of_loose? {i : Instant} (h : loose? text = some i) : text.count ':' = 2 := by
  simp only [loose?, Option.bind_eq_bind, Option.bind_eq_some_iff, Prod.exists] at h
  obtain ⟨year, afterYear, hyear, beforeMonth, hskip₁, month, afterMonth, hmonth, beforeDay, hskip₂,
    day, afterDay, hday, hour, afterHour, hhour, beforeMinute, hskip₃, minute, afterMinute, hminute,
    beforeSecond, hskip₄, second, afterSecond, hsecond, nano, afterFraction, hfraction, h⟩ := h
  have hend : afterFraction = [] := by
    by_contra hnot
    rw [if_neg (by simpa using hnot)] at h
    cases h
  subst hend
  obtain rfl := eq_cons_of_skip? hskip₁
  obtain rfl := eq_cons_of_skip? hskip₂
  obtain rfl := eq_cons_of_skip? hskip₃
  obtain rfl := eq_cons_of_skip? hskip₄
  calc text.count ':'
      = beforeMonth.count ':' := by
        rw [count_colon_of_looseYear? hyear, List.count_cons_of_ne (by decide)]
    _ = beforeDay.count ':' := by
        rw [count_colon_of_looseField? hmonth, List.count_cons_of_ne (by decide)]
    _ = afterDay.count ':' := count_colon_of_looseField? hday
    _ = beforeMinute.count ':' + 1 := by
        rw [count_colon_of_looseField? hhour, List.count_cons_self]
    _ = beforeSecond.count ':' + 2 := by
        rw [count_colon_of_looseField? hminute, List.count_cons_self]
    _ = 2 := by
        rw [count_colon_of_looseField? hsecond, count_colon_of_fraction? hfraction,
          List.count_nil]

end RunQuery.Timestamp

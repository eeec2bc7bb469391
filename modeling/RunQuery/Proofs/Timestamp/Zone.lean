import RunQuery.Proofs.Timestamp.Parts

/-!
# Which zones are seen

A payload's timestamp is not read by its parts at first. Whether it has a zone at all is told by its
signs: by its last letter, or by a sign behind the first `T`. Where no zone is seen, one is written
after the text.

So a zone goes unseen if it is an offset and either the separator is a blank or a small `t`, or its
sign is the minus that is not of ASCII. With a second zone after it the text is in no notation, and
no instant is read. It is never read as another instant: without its own zone it cannot be read
either, since it has a colon too many for the loose notation.
-/

namespace RunQuery.Timestamp

open Decimal (isDigit)

/-- Is the zone of a text in the standard notation one that is seen: the letter of universal time,
or an offset that follows on a capital `T` and has its sign from ASCII? -/
def ShowsZone (text : List Char) : Prop :=
  text.getLast? = some 'Z' ∨ text.getLast? = some 'z' ∨ text[10]? = some 'T' ∧ '\u2212' ∉ text

instance (text : List Char) : Decidable (ShowsZone text) := inferInstanceAs (Decidable (_ ∨ _))

variable {text date time zone back : List Char} {separator : Char}

/-! ## Seen and unseen zones -/

theorem hasZone_of_getLast? (h : text.getLast? = some 'Z' ∨ text.getLast? = some 'z') :
    hasZone text = true := by
  rcases h with h | h
  · rw [hasZone, h]
    rfl
  · rw [hasZone, h]
    rfl

/-- Without a letter at its end, a text has a zone if there is a sign behind the first `T`, which is
the separator or not there at all. -/
theorem AreParts.hasZone_append (h : AreParts date separator time zone)
    (hback : ∀ c ∈ back, c ≠ 'T' ∧ c ≠ 'Z' ∧ c ≠ 'z') :
    hasZone (date ++ separator :: back)
      = (separator == 'T' && back.any fun c ↦ c == '+' || c == '-') := by
  have hletter : ∀ c ∈ date ++ separator :: back, c ≠ 'Z' ∧ c ≠ 'z' := by
    rw [List.forall_mem_append, List.forall_mem_cons]
    refine ⟨fun c hc ↦ ⟨h.ne_of_mem_date rfl (by decide) c hc,
      h.ne_of_mem_date rfl (by decide) c hc⟩, ?_, fun c hc ↦ (hback c hc).2⟩
    rcases h.separator_cases with rfl | rfl | rfl <;> decide
  have hdrop : (date ++ separator :: back).dropWhile (· != 'T')
      = if separator = 'T' then separator :: back else [] := by
    have hdate : ∀ c ∈ date, (c != 'T') = true := fun c hc ↦
      bne_iff_ne.mpr (h.ne_of_mem_date rfl (by decide) c hc)
    rw [List.dropWhile_append_of_pos hdate]
    by_cases hT : separator = 'T'
    · rw [if_pos hT, List.dropWhile_cons_of_neg (by simp [hT])]
    · rw [if_neg hT, List.dropWhile_cons_of_pos (by simp [hT]), List.dropWhile_eq_nil_iff]
      exact fun c hc ↦ bne_iff_ne.mpr (hback c hc).1
  rw [hasZone]
  split
  · next hlast => exact absurd rfl (hletter _ (List.mem_of_getLast? hlast)).1
  · next hlast => exact absurd rfl (hletter _ (List.mem_of_getLast? hlast)).2
  · rw [hdrop]
    by_cases hT : separator = 'T'
    · subst hT
      simp
    · simp [hT]

theorem any_sign_eq_false (h : ∀ c ∈ text, IsOfTime c) :
    (text.any fun c ↦ c == '+' || c == '-') = false := by
  rw [List.any_eq_false]
  intro c hc
  have hplus : c ≠ '+' := (h c hc).ne rfl (by decide) (by decide)
  have hminus : c ≠ '-' := (h c hc).ne rfl (by decide) (by decide)
  simp only [hplus, hminus, Bool.or_eq_true, beq_iff_eq, or_self, not_false_eq_true]

theorem any_sign_cons {sign : Char} (htime : ∀ c ∈ time, IsOfTime c)
    (hback : ∀ c ∈ back, IsOfTime c) :
    ((time ++ sign :: back).any fun c ↦ c == '+' || c == '-') = (sign == '+' || sign == '-') := by
  rw [List.any_append, List.any_cons, any_sign_eq_false htime, any_sign_eq_false hback,
    Bool.or_false, Bool.false_or]

theorem AreParts.minus_mem_iff {sign : Char} (h : AreParts date separator time zone)
    (hback : ∀ c ∈ back, IsOfTime c) :
    '\u2212' ∈ date ++ separator :: (time ++ sign :: back) ↔ sign = '\u2212' := by
  have hdate : '\u2212' ∉ date := fun hmem ↦ h.ne_of_mem_date rfl (by decide) _ hmem rfl
  have hseparator : '\u2212' ≠ separator := by
    rcases h.separator_cases with rfl | rfl | rfl <;> decide
  have hnone : ∀ text : List Char, (∀ c ∈ text, IsOfTime c) → '\u2212' ∉ text :=
    fun text htext hmem ↦ (htext _ hmem).ne rfl (by decide) (by decide) rfl
  rw [List.mem_append, or_iff_right hdate, List.mem_cons, or_iff_right hseparator,
    List.mem_append, or_iff_right (hnone time h.mem_time), List.mem_cons,
    or_iff_left (hnone back hback), eq_comm]

/-- The signs of a text in the standard notation tell just those zones that are shown. -/
theorem AreParts.hasZone_iff (h : AreParts date separator time zone) :
    hasZone (date ++ separator :: (time ++ zone)) = true ↔
      ShowsZone (date ++ separator :: (time ++ zone)) := by
  have hten : (date ++ separator :: (time ++ zone))[10]? = some separator := by
    rw [← h.length_date, List.getElem?_append_right (Nat.le_refl _), Nat.sub_self,
      List.getElem?_cons_zero]
  rw [ShowsZone, hten]
  rcases h.isZone with ⟨hletter⟩ | ⟨hsign, hhours, hminutes, hne⟩
  · next c =>
    have hlast := getLast?_letter hletter date separator time
    exact iff_of_true (hasZone_of_getLast? hlast) (or_assoc.mp (.inl hlast))
  · next sign hours minutes =>
    have hoffset := isOfTime_of_mem_offset hhours hminutes
    have hback : ∀ c ∈ time ++ sign :: (hours ++ ':' :: minutes), c ≠ 'T' ∧ c ≠ 'Z' ∧ c ≠ 'z' := by
      rw [List.forall_mem_append, List.forall_mem_cons]
      refine ⟨fun c hc ↦ (h.mem_time c hc).ne_letter, ?_, fun c hc ↦ (hoffset c hc).ne_letter⟩
      rcases hsign with rfl | rfl | rfl <;> decide
    -- an offset ends in a digit, so that all depends on the separator and the sign
    have hletters : ∀ d, isDigit d = false →
        (date ++ separator :: (time ++ sign :: (hours ++ ':' :: minutes))).getLast? ≠ some d := by
      intro d hd
      obtain ⟨c, hc, hlast⟩ :=
        exists_getLast?_offset (date ++ separator :: time) sign hours hminutes hne
      rw [List.append_assoc, List.cons_append] at hlast
      rw [hlast]
      exact fun heq ↦ ne_of_isDigit hc hd (Option.some.inj heq)
    rw [or_iff_right (hletters 'Z' rfl), or_iff_right (hletters 'z' rfl), Option.some.injEq,
      h.hasZone_append hback, any_sign_cons h.mem_time hoffset, h.minus_mem_iff hoffset,
      Bool.and_eq_true, Bool.or_eq_true, beq_iff_eq, beq_iff_eq, beq_iff_eq]
    refine and_congr_right fun _ ↦ ?_
    rcases hsign with rfl | rfl | rfl <;> decide

/-! ## What is read -/

theorem AreParts.standard?_append_eq_none (h : AreParts date separator time zone)
    (hzone : zone.count ':' = 1) :
    standard? (date ++ separator :: (time ++ zone) ++ ['Z']) = none := by
  rw [Option.eq_none_iff_forall_ne_some]
  intro i hi
  obtain ⟨date', separator', time', zone', htext, h'⟩ := exists_parts_of_standard? hi
  have hcount : 2 + zone'.count ':' = 3 := by
    rw [← h'.count_colon, ← htext, List.count_append, h.count_colon, hzone]
    rfl
  -- the third colon asks for an offset, the last character for a letter
  rw [h'.isZone.eq_of_append htext] at hcount
  cases hcount

theorem AreParts.loose?_eq_none (h : AreParts date separator time zone)
    (hzone : zone.count ':' = 1) : loose? (date ++ separator :: (time ++ zone)) = none := by
  rw [Option.eq_none_iff_forall_ne_some]
  intro i hi
  have hcount := count_colon_of_loose? hi
  rw [h.count_colon, hzone] at hcount
  cases hcount

/-- **What a text in the standard notation is read as**: the instant that it gives if its zone is
shown, and else nothing. -/
theorem read?_eq_ite {text : String} {i : Instant} (h : standard? text.toList = some i) :
    read? text = if ShowsZone text.toList then some i else none := by
  obtain ⟨date, separator, time, zone, htext, hparts⟩ := exists_parts_of_standard? h
  have hseen := hparts.hasZone_iff
  rw [← htext] at hseen
  rw [read?]
  by_cases hshown : ShowsZone text.toList
  · rw [if_pos (hseen.mpr hshown), if_pos hshown, h, Option.some_or]
  · rw [if_neg (hseen.not.mpr hshown), if_neg hshown]
    have hzone : zone.count ':' = 1 := by
      rcases hparts.isZone.cases with ⟨c, rfl, hletter⟩ | ⟨hcount, -⟩
      · have hlast := getLast?_letter hletter date separator time
        rw [← htext] at hlast
        exact absurd (or_assoc.mp (.inl hlast)) hshown
      · exact hcount
    rw [htext, hparts.standard?_append_eq_none hzone, hparts.loose?_eq_none hzone, Option.none_or]

theorem read?_eq_some_of_append {text : String} {i : Instant}
    (h : standard? (text.toList ++ ['Z']) = some i) : read? text = some i := by
  obtain ⟨date, separator, time, zone, htext, hparts⟩ := exists_parts_of_standard? h
  have hunseen : hasZone text.toList = false := by
    obtain rfl := hparts.isZone.eq_of_append htext
    rw [← List.cons_append, ← List.append_assoc] at htext
    rw [(List.append_inj' htext rfl).1,
      hparts.hasZone_append fun c hc ↦ (hparts.mem_time c hc).ne_letter,
      any_sign_eq_false hparts.mem_time, Bool.and_false]
  rw [read?, hunseen, if_neg Bool.false_ne_true, h, Option.some_or]

end RunQuery.Timestamp

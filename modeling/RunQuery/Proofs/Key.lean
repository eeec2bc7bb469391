import Mathlib.Data.List.Nodup
import Mathlib.Data.List.TakeWhile
import RunQuery.Key

/-!
# The texts of keys

A key has one text, and a text names at most one key. They fit together where the key is
*addressable*, with a known section and a name that is not empty: what a text names is such a key,
and the text of such a key names it again. A text need not be the one of its key, since the section
of a built-in field may be left out.

The section is read up to the first colon. No known section has a colon in its name, so the colon
that was put between section and name is the one at which the text is split, whatever stands in the
name.
-/

namespace RunQuery

namespace Section

@[simp] theorem name_ofName (text : String) : (ofName text).name = text := by
  rw [ofName]
  split_ifs with hrun hconfig hsummary htags
  · exact hrun.symm
  · exact hconfig.symm
  · exact hsummary.symm
  · exact htags.symm
  · rfl

theorem ofName_name_of_isKnown {area : Section} (h : area.isKnown = true) :
    ofName area.name = area := by
  cases area with
  | unknown name => cases h
  | _ => rfl

theorem colon_not_mem_name {area : Section} (h : area.isKnown = true) :
    ':' ∉ area.name.toList := by
  cases area with
  | unknown name => cases h
  | _ => decide

end Section

namespace Key

/-- Can the key be named by a text? -/
structure IsAddressable (key : Key) : Prop where
  /-- Its section is one that runs have. -/
  known : key.inSection.isKnown = true
  /-- It has a name. -/
  named : key.name ≠ ""

/-! ## The first colon -/

theorem parse?_of_not_mem {text : String} (h : ':' ∉ text.toList) :
    parse? text = if text = "" then none else some ⟨.run, text⟩ := by
  have hrest : text.toList.dropWhile (· != ':') = [] := by
    rw [List.dropWhile_eq_nil_iff]
    intro c hc
    exact bne_iff_ne.mpr fun heq ↦ h (heq ▸ hc)
  simp only [parse?, hrest, List.isEmpty_iff, String.toList_eq_nil_iff]

theorem span_of_colon {area : List Char} (h : ':' ∉ area) (name : List Char) :
    (area ++ ':' :: name).takeWhile (· != ':') = area ∧
      (area ++ ':' :: name).dropWhile (· != ':') = ':' :: name := by
  have hbefore : ∀ c ∈ area, (c != ':') = true := by
    intro c hc
    exact bne_iff_ne.mpr fun heq ↦ h (heq ▸ hc)
  constructor
  · rw [List.takeWhile_append_of_pos hbefore]
    exact List.append_nil _
  · rw [List.dropWhile_append_of_pos hbefore]
    rfl

theorem parse?_of_colon {area name : String} (h : ':' ∉ area.toList) :
    parse? (area ++ ":" ++ name) =
      if (Section.ofName area).isKnown then
        if name = "" then none else some ⟨Section.ofName area, name⟩
      else some ⟨.run, area ++ ":" ++ name⟩ := by
  have hchars : (area ++ ":" ++ name).toList = area.toList ++ ':' :: name.toList := by
    simp
  have hne : (area.toList ++ ':' :: name.toList).isEmpty = false := by
    simp
  obtain ⟨htake, hdrop⟩ := span_of_colon h name.toList
  simp only [parse?, hchars, hne, htake, hdrop, String.ofList_toList, List.isEmpty_iff,
    String.toList_eq_nil_iff, Bool.false_eq_true, if_false]

theorem exists_first_colon (text : String) :
    ':' ∉ text.toList ∨
      ∃ area name : String, ':' ∉ area.toList ∧ text = area ++ ":" ++ name := by
  by_cases h : ':' ∈ text.toList
  · obtain ⟨before, after, hsplit, hbefore⟩ := List.eq_append_cons_of_mem h
    refine .inr ⟨String.ofList before, String.ofList after, ?_, ?_⟩
    · rwa [String.toList_ofList]
    · rw [← String.toList_inj, hsplit]
      simp
  · exact .inl h

/-! ## Text and key -/

/-- A text names no key if it is empty, or nothing follows a known section and its colon. -/
theorem parse?_eq_none_iff {text : String} :
    parse? text = none ↔
      text = "" ∨ ∃ area : Section, area.isKnown = true ∧ text = area.name ++ ":" := by
  constructor
  · intro h
    rcases exists_first_colon text with hplain | ⟨area, name, hcolon, rfl⟩
    · rw [parse?_of_not_mem hplain] at h
      split_ifs at h with hempty
      exact .inl hempty
    · rw [parse?_of_colon hcolon] at h
      split_ifs at h with hknown hempty
      subst hempty
      exact .inr ⟨Section.ofName area, hknown, by simp⟩
  · rintro (rfl | ⟨area, hknown, rfl⟩)
    · rfl
    · have hparse : parse? (area.name ++ ":" ++ "") = _ :=
        parse?_of_colon (Section.colon_not_mem_name hknown)
      rwa [Section.ofName_name_of_isKnown hknown, if_pos hknown, if_pos rfl,
        String.append_empty] at hparse

theorem isAddressable_of_parse? {text : String} {key : Key} (h : parse? text = some key) :
    key.IsAddressable := by
  rcases exists_first_colon text with hplain | ⟨area, name, hcolon, rfl⟩
  · rw [parse?_of_not_mem hplain] at h
    split_ifs at h with hempty
    cases h
    exact ⟨rfl, hempty⟩
  · rw [parse?_of_colon hcolon] at h
    split_ifs at h with hknown hempty
    · cases h
      exact ⟨hknown, hempty⟩
    · -- an unknown section is part of the name of a built-in field
      cases h
      refine ⟨rfl, fun hempty ↦ ?_⟩
      have hchars := congrArg String.toList hempty
      simp at hchars

theorem parse?_text_of_isKnown {key : Key} (h : key.inSection.isKnown = true) :
    parse? key.text = if key.name = "" then none else some key := by
  rw [text, parse?_of_colon (Section.colon_not_mem_name h), Section.ofName_name_of_isKnown h,
    if_pos h]

/-- **A text names its key** exactly if the key is addressable. -/
theorem parse?_text_eq_some_iff {key : Key} : parse? key.text = some key ↔ key.IsAddressable := by
  constructor
  · exact isAddressable_of_parse?
  · intro h
    rw [parse?_text_of_isKnown h.known, if_neg h.named]

/-- Keys with known sections have different texts, even where a name is empty. -/
theorem eq_of_text_eq {key other : Key} (h : key.inSection.isKnown = true)
    (h' : other.inSection.isKnown = true) (heq : key.text = other.text) : key = other := by
  have hchars : key.inSection.name.toList ++ ':' :: key.name.toList
      = other.inSection.name.toList ++ ':' :: other.name.toList := by
    simpa [text] using congrArg String.toList heq
  obtain ⟨hbefore, hafter⟩ := span_of_colon (Section.colon_not_mem_name h) key.name.toList
  obtain ⟨hbefore', hafter'⟩ := span_of_colon (Section.colon_not_mem_name h') other.name.toList
  rw [hchars] at hbefore hafter
  have hsection : key.inSection = other.inSection := by
    rw [← Section.ofName_name_of_isKnown h, ← Section.ofName_name_of_isKnown h']
    exact congrArg Section.ofName (String.toList_inj.mp (hbefore.symm.trans hbefore'))
  have hname : key.name = other.name :=
    String.toList_inj.mp (List.cons.inj (hafter.symm.trans hafter')).2
  cases key
  cases other
  simp_all

theorem nodup_map_text {keys : List Key} (h : keys.Nodup)
    (hknown : ∀ key ∈ keys, key.inSection.isKnown = true) : (keys.map text).Nodup := by
  apply List.Nodup.map_on _ h
  intro key hkey other hother heq
  exact eq_of_text_eq (hknown key hkey) (hknown other hother) heq

end Key

end RunQuery

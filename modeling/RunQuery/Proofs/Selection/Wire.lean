import RunQuery.Proofs.Document
import RunQuery.Proofs.Key
import RunQuery.Selection.Wire

/-!
# Ranges as data and back

Ranges by key are written as one object, whose names are the texts of the keys, and come back from
it where every key is addressable and every end is finite. No two keys share a text then, so that
each range has a member of its own.

The members stand in the order of the texts, which is not the order of the keys: the sections are in
another order than their names, and a colon may come before or after what stands in a name. So what
is read is written into a new dictionary, where it only counts that the entries are the same.
-/

namespace RunQuery

namespace Bounds

/-! ## One range -/

/-- The range without the ends that are not finite, which have no form in JSON. -/
def finitePart (b : Bounds) : Bounds :=
  ⟨b.low.filter fun x ↦ x.isFinite, b.high.filter fun x ↦ x.isFinite⟩

/-- Are the ends finite, as far as there are any? -/
structure HasFiniteEnds (b : Bounds) : Prop where
  /-- The lower end. -/
  low : ∀ x ∈ b.low, x.isFinite = true
  /-- The upper end. -/
  high : ∀ x ∈ b.high, x.isFinite = true

@[simp] theorem filter_isFinite_eq_self_iff {e : Option Double} :
    (e.filter fun x ↦ x.isFinite) = e ↔ ∀ x ∈ e, x.isFinite = true := by
  cases e with
  | none => exact iff_of_true rfl nofun
  | some x => simp [Option.filter_some]

theorem finitePart_eq_self_iff {b : Bounds} : b.finitePart = b ↔ b.HasFiniteEnds := by
  obtain ⟨low, high⟩ := b
  simp only [finitePart, mk.injEq, filter_isFinite_eq_self_iff]
  constructor
  · rintro ⟨hlow, hhigh⟩
    exact ⟨hlow, hhigh⟩
  · rintro ⟨hlow, hhigh⟩
    exact ⟨hlow, hhigh⟩

theorem isCanonical_endToJson (e : Option Double) : (endToJson e).IsCanonical := by
  cases e with
  | none => rfl
  | some x =>
    rw [endToJson]
    split <;> rfl

@[simp] theorem orAbsent?_endToJson (e : Option Double) :
    Document.orAbsent? Document.double? (some (endToJson e))
      = some (e.filter fun x ↦ x.isFinite) := by
  cases e with
  | none => rfl
  | some x =>
    rw [endToJson, Option.filter_some]
    split <;> rfl

theorem read?_toJson (b : Bounds) : read? b.toJson = some b.finitePart := by
  have hfields : Document.fields? [("low", .nullable), ("high", .nullable)] b.toJson
      = some [some (endToJson b.low), some (endToJson b.high)] := by
    rw [toJson, Document.fields?_object]
    · rfl
    · exact (by decide : ["low", "high"].Nodup)
  rw [read?, hfields]
  simp only [orAbsent?_endToJson, Option.bind_eq_bind, Option.bind_some]
  rfl

theorem read?_canonical_toJson (b : Bounds) : read? b.toJson.canonical = some b.finitePart := by
  rw [← read?_toJson, read?, read?, toJson, Document.fields?_canonical]
  · exact (by decide : ["low", "high"].Nodup)
  · simp [isCanonical_endToJson]

end Bounds

namespace AxisRanges

/-! ## Ranges by text -/

theorem toList_byText_perm {ranges : AxisRanges}
    (h : ∀ key ∈ ranges.keys, key.inSection.isKnown = true) :
    (byText ranges).toList.Perm (ranges.toList.map fun e ↦ (e.1.text, e.2)) := by
  apply Dict.toList_ofList_perm
  have hnodup := Key.nodup_map_text ranges.keysIncrease.nodup h
  rw [List.map_map] at hnodup ⊢
  exact hnodup

theorem isAddressable_of_ofTexts? {texts : Dict String Bounds} {ranges : AxisRanges}
    (h : ofTexts? texts = some ranges) : ∀ key ∈ ranges.keys, key.IsAddressable := by
  obtain ⟨entries, hentries, rfl⟩ := Option.map_eq_some_iff.mp h
  intro key hkey
  obtain ⟨e, he, rfl⟩ := List.mem_map.mp hkey
  obtain ⟨d, -, hread⟩ := Document.exists_of_mem_mapM hentries e (mem_of_mem_orderEntries he)
  obtain ⟨key, hparse, rfl⟩ := Option.map_eq_some_iff.mp hread
  exact Key.isAddressable_of_parse? hparse

theorem ofTexts?_eq_none {texts : Dict String Bounds} {text : String} (h : text ∈ texts.keys)
    (hparse : Key.parse? text = none) : ofTexts? texts = none := by
  rw [Option.eq_none_iff_forall_ne_some]
  intro ranges hranges
  obtain ⟨entries, hentries, -⟩ := Option.map_eq_some_iff.mp hranges
  obtain ⟨e, he, rfl⟩ := List.mem_map.mp h
  obtain ⟨_, -, hread⟩ := Document.exists_mem_of_mapM hentries e he
  rw [hparse] at hread
  cases hread

/-- Ranges under the texts of addressable keys are read as ranges by those keys, in whatever order
the texts come. -/
theorem ofTexts?_eq_some {texts : Dict String Bounds} {ranges : AxisRanges}
    (h : ∀ key ∈ ranges.keys, key.IsAddressable)
    (hperm : texts.toList.Perm (ranges.toList.map fun e ↦ (e.1.text, e.2))) :
    ofTexts? texts = some ranges := by
  -- an entry by text as an entry by key
  let back (e : String × Bounds) : Key × Bounds := ((Key.parse? e.1).getD default, e.2)
  have hparse : ∀ e ∈ ranges.toList, Key.parse? e.1.text = some e.1 := by
    intro e he
    exact Key.parse?_text_eq_some_iff.mpr (h e.1 (List.mem_map_of_mem he))
  have hread : texts.toList.mapM (fun e ↦ (Key.parse? e.1).map fun key ↦ (key, e.2))
      = some (texts.toList.map back) := by
    apply Document.mapM_eq_some
    intro e he
    obtain ⟨d, hd, rfl⟩ := List.mem_map.mp (hperm.mem_iff.mp he)
    simp only [back, hparse d hd, Option.map_some, Option.getD_some]
  have hback : (ranges.toList.map fun e ↦ (e.1.text, e.2)).map back = ranges.toList := by
    rw [List.map_map]
    refine (List.map_congr_left fun e he ↦ ?_).trans (List.map_id' ranges.toList)
    simp only [back, Function.comp, hparse e he, Option.getD_some]
  have hentries : (texts.toList.map back).Perm ranges.toList := by
    rw [← hback]
    exact hperm.map back
  have hnodup : ((texts.toList.map back).map Prod.fst).Nodup := by
    rw [(hentries.map Prod.fst).nodup_iff]
    exact ranges.keysIncrease.nodup
  rw [ofTexts?, hread, Option.map_some, Dict.ofList_eq_of_perm hnodup hentries, Dict.ofList_toList]

theorem ofTexts?_mapValues_byText {ranges : AxisRanges}
    (h : ∀ key ∈ ranges.keys, key.IsAddressable) (f : Bounds → Bounds) :
    ofTexts? ((byText ranges).mapValues f) = some (ranges.mapValues f) := by
  apply ofTexts?_eq_some
  · intro key hkey
    obtain ⟨e, he, rfl⟩ := List.mem_map.mp hkey
    obtain ⟨d, hd, rfl⟩ := List.mem_map.mp he
    exact h d.1 (List.mem_map_of_mem hd)
  · have hchanged := (toList_byText_perm fun key hkey ↦ (h key hkey).known).map
      fun e ↦ (e.1, f e.2)
    change ((byText ranges).toList.map fun e ↦ (e.1, f e.2)).Perm
      ((ranges.toList.map fun e ↦ (e.1, f e.2)).map fun e ↦ (e.1.text, e.2))
    rw [List.map_map] at hchanged ⊢
    exact hchanged

/-! ## There and back -/

theorem read?_members (members : List (String × Json)) :
    read? (Tree.object members : Json)
      = (members.mapM fun m ↦ (Bounds.read? m.2).map fun range ↦ (m.1, range)).bind
          fun entries ↦ ofTexts? (Dict.ofList entries) :=
  rfl

theorem read?_eq_none {members : List (String × Json)} {text : String}
    (h : text ∈ members.map Prod.fst) (hparse : Key.parse? text = none) :
    read? (Tree.object members : Json) = none := by
  rw [read?_members, Option.bind_eq_none_iff]
  intro entries hentries
  obtain ⟨m, hm, rfl⟩ := List.mem_map.mp h
  obtain ⟨e, he, hread⟩ := Document.exists_mem_of_mapM hentries m hm
  obtain ⟨range, -, rfl⟩ := Option.map_eq_some_iff.mp hread
  exact ofTexts?_eq_none (Dict.mem_keys_ofList_iff.mpr (List.mem_map_of_mem he)) hparse

theorem read?_singleton {key : Key} (h : key.IsAddressable) (data : Json) :
    read? (Tree.object [(key.text, data)] : Json)
      = (Bounds.read? data).map fun b ↦ Dict.ofList [(key, b)] := by
  rw [read?_members, List.mapM_cons, List.mapM_nil]
  cases Bounds.read? data with
  | none => rfl
  | some b =>
    apply ofTexts?_eq_some _ (.refl _)
    intro other hother
    rwa [List.mem_singleton.mp hother]

theorem read?_object {write : Bounds → Json}
    (hwrite : ∀ range, Bounds.read? (write range) = some range.finitePart)
    (texts : Dict String Bounds) :
    read? (Tree.object (texts.toList.map fun e ↦ (e.1, write e.2)) : Json)
      = ofTexts? (texts.mapValues Bounds.finitePart) := by
  have hmembers : (texts.toList.map fun e ↦ (e.1, write e.2)).mapM
      (fun m ↦ (Bounds.read? m.2).map fun range ↦ (m.1, range))
      = some (texts.mapValues Bounds.finitePart).toList := by
    rw [List.mapM_map]
    apply Document.mapM_eq_some
    intro e _
    exact congrArg (Option.map fun range ↦ (e.1, range)) (hwrite e.2)
  rw [read?_members, hmembers, Option.bind_some, Dict.ofList_toList]

/-- Written data and its canonical form are read as the ranges without the ends that are not
finite. -/
theorem read?_toJson (ranges : AxisRanges) :
    read? ranges.toJson = ofTexts? ((byText ranges).mapValues Bounds.finitePart) :=
  read?_object Bounds.read?_toJson (byText ranges)

theorem read?_canonical_toJson (ranges : AxisRanges) :
    read? ranges.toJson.canonical = read? ranges.toJson := by
  have hcanonical : ranges.toJson.canonical
      = .object ((byText ranges).toList.map fun e ↦ (e.1, e.2.toJson.canonical)) := by
    rw [toJson, Tree.canonical_object, KeysIncrease.orderEntries_eq, List.map_map]
    · rfl
    · exact Dict.keysIncrease_mapValues Bounds.toJson (byText ranges).keysIncrease
  rw [read?_toJson, hcanonical, read?_object Bounds.read?_canonical_toJson]

/-- **Ranges by key are read back** exactly if their keys are addressable and their ends finite. -/
theorem read?_toJson_eq_some_iff {ranges : AxisRanges} :
    read? ranges.toJson = some ranges ↔
      ∀ e ∈ ranges.toList, e.1.IsAddressable ∧ e.2.HasFiniteEnds := by
  rw [read?_toJson]
  constructor
  · intro hread
    have hkeys : ∀ key ∈ ranges.keys, key.IsAddressable := isAddressable_of_ofTexts? hread
    rw [ofTexts?_mapValues_byText hkeys, Option.some.injEq, Dict.mapValues_eq_self_iff] at hread
    intro e he
    exact ⟨hkeys e.1 (List.mem_map_of_mem he), Bounds.finitePart_eq_self_iff.mp (hread e he)⟩
  · intro h
    have hkeys : ∀ key ∈ ranges.keys, key.IsAddressable :=
      List.forall_mem_map.mpr fun e he ↦ (h e he).1
    rw [ofTexts?_mapValues_byText hkeys, Option.some.injEq, Dict.mapValues_eq_self_iff]
    exact fun e he ↦ Bounds.finitePart_eq_self_iff.mpr (h e he).2

/-- **Texts name keys in one canonical way, and ranges by key lose nothing by them.** A text names a
key unless it is empty or ends after a known section and its colon; the key is addressable, and its
own text names it again. So ranges by addressable keys with finite ends come back from their data,
in written order or in canonical form, in which each of them is a member of its own. -/
theorem parse?_text_and_read?_toJson :
    (∀ text, Key.parse? text = none ↔
      text = "" ∨ ∃ area : Section, area.isKnown = true ∧ text = area.name ++ ":") ∧
    (∀ text key, Key.parse? text = some key →
      key.IsAddressable ∧ Key.parse? key.text = some key) ∧
    ∀ ranges : AxisRanges, (∀ e ∈ ranges.toList, e.1.IsAddressable ∧ e.2.HasFiniteEnds) →
      read? ranges.toJson = some ranges ∧ read? ranges.toJson.canonical = some ranges ∧
        ∃ members, ranges.toJson = .object members ∧ (members.map Prod.fst).Nodup ∧
          members.Perm (ranges.toList.map fun e ↦ (e.1.text, e.2.toJson)) := by
  refine ⟨fun text ↦ Key.parse?_eq_none_iff, fun text key hparse ↦ ?_, fun ranges h ↦ ?_⟩
  · have haddressable := Key.isAddressable_of_parse? hparse
    exact ⟨haddressable, Key.parse?_text_eq_some_iff.mpr haddressable⟩
  · have hread := read?_toJson_eq_some_iff.mpr h
    refine ⟨hread, (read?_canonical_toJson ranges).trans hread, _, rfl, ?_, ?_⟩
    · have hordered := Dict.keysIncrease_mapValues Bounds.toJson (byText ranges).keysIncrease
      exact hordered.nodup
    · have hknown : ∀ key ∈ ranges.keys, key.inSection.isKnown = true :=
        List.forall_mem_map.mpr fun e he ↦ (h e he).1.known
      have hmembers := (toList_byText_perm hknown).map fun e ↦ (e.1, e.2.toJson)
      rw [List.map_map] at hmembers
      exact hmembers

/-- The text of one key is the name in another, the texts are in another order than the keys, and
one name is a colon. -/
theorem read?_toJson_of_nested_names :
    let ranges : AxisRanges := Dict.ofList
      [(⟨.run, "config:lr"⟩, ⟨some Double.zero, none⟩),
        (⟨.config, "lr"⟩, ⟨some Double.zero.neg, some Double.zero⟩), (⟨.tags, ":"⟩, ⟨none, none⟩)]
    (∀ e ∈ ranges.toList, e.1.IsAddressable ∧ e.2.HasFiniteEnds) ∧
      Key.parse? "config:lr" = some ⟨.config, "lr"⟩ ∧
      (byText ranges).keys = ["config:lr", "run:config:lr", "tags::"] ∧
      read? ranges.toJson = some ranges := by
  intro ranges
  have hentries : ranges.toList = [(⟨.run, "config:lr"⟩, ⟨some Double.zero, none⟩),
      (⟨.config, "lr"⟩, ⟨some Double.zero.neg, some Double.zero⟩),
      (⟨.tags, ":"⟩, ⟨none, none⟩)] := by
    decide
  have h : ∀ e ∈ ranges.toList, e.1.IsAddressable ∧ e.2.HasFiniteEnds := by
    rw [hentries]
    simp only [List.forall_mem_cons]
    exact ⟨⟨⟨rfl, by decide⟩, by decide, nofun⟩, ⟨⟨rfl, by decide⟩, by decide, by decide⟩,
      ⟨⟨rfl, by decide⟩, nofun, nofun⟩, nofun⟩
  exact ⟨h, by decide, by decide, (parse?_text_and_read?_toJson.2.2 ranges h).1⟩

end AxisRanges

end RunQuery

import Mathlib.Data.Finset.Card
import Mathlib.Data.List.Induction
import Mathlib.Data.List.Sort
import RunQuery.Proofs.Discovery.Suggestions

/-!
# Columns and the order of runs

What is found in a set of runs does not depend on their order. Keys come in the order of their
names. Columns that are chosen by variety come in the order of their counts, and names make that
order strict: so the counted names determine the list, and a greater threshold cuts it off.

A count is the number of distinct texts under a name. They are collected in a list whose order is
that of the runs, but only its length is read, and the length depends on nothing but the set of the
entries. More runs have more entries. So a name keeps its count or gets a greater one, and what was
offered or had a column is offered and has one still.
-/

namespace RunQuery.Discovery

/-! ## Texts under a name -/

/-- The entries of runs in a section. -/
def entriesIn (area : Section) (runs : List Run) : List (String × Value) :=
  runs.flatMap (valuesIn area)

/-- The scalar values under a name. -/
def scalarsUnder (name : String) (entries : List (String × Value)) : List Value :=
  (entries.filter fun e ↦ e.1 = name ∧ e.2.isScalar = true).map Prod.snd

/-- The texts of those that are not null. -/
def textsUnder (name : String) (entries : List (String × Value)) : List String :=
  ((scalarsUnder name entries).filter fun v ↦ !v.isNull).map Value.display

/-- The number of distinct ones. -/
def variety (name : String) (entries : List (String × Value)) : Nat :=
  (textsUnder name entries).toFinset.card

section

variable {name : String} {entries others : List (String × Value)} {e : String × Value} {v : Value}

@[simp] theorem mem_scalarsUnder_iff :
    v ∈ scalarsUnder name entries ↔ (name, v) ∈ entries ∧ v.isScalar = true := by
  simp only [scalarsUnder, List.mem_map, List.mem_filter, decide_eq_true_eq]
  constructor
  · rintro ⟨⟨_, _⟩, ⟨hmem, rfl, hscalar⟩, rfl⟩
    exact ⟨hmem, hscalar⟩
  · rintro ⟨hmem, hscalar⟩
    exact ⟨_, ⟨hmem, rfl, hscalar⟩, rfl⟩

theorem scalarsUnder_subset (h : entries ⊆ others) :
    scalarsUnder name entries ⊆ scalarsUnder name others := fun v hv ↦ by
  rw [mem_scalarsUnder_iff] at hv ⊢
  exact ⟨h hv.1, hv.2⟩

theorem scalarsUnder_ne_nil (h : entries ⊆ others) (hne : scalarsUnder name entries ≠ []) :
    scalarsUnder name others ≠ [] :=
  fun hnil ↦ hne (List.eq_nil_of_subset_nil (hnil ▸ scalarsUnder_subset h))

theorem mem_textsUnder_iff {text : String} :
    text ∈ textsUnder name entries ↔
      ∃ v ∈ scalarsUnder name entries, v.isNull = false ∧ Value.display v = text := by
  simp [textsUnder, and_assoc]

theorem variety_le (h : entries ⊆ others) : variety name entries ≤ variety name others := by
  refine Finset.card_le_card fun text htext ↦ ?_
  rw [List.mem_toFinset, mem_textsUnder_iff] at htext ⊢
  obtain ⟨v, hv, htext⟩ := htext
  exact ⟨v, scalarsUnder_subset h hv, htext⟩

theorem scalarsUnder_concat (name : String) (entries : List (String × Value)) (e : String × Value) :
    scalarsUnder name (entries ++ [e]) = scalarsUnder name entries ++
      if e.1 = name ∧ e.2.isScalar = true then [e.2] else [] := by
  rw [scalarsUnder, List.filter_append, List.map_append, scalarsUnder]
  split_ifs with h
  · rw [List.filter_cons_of_pos (by simpa using h)]
    rfl
  · rw [List.filter_cons_of_neg (by simpa using h)]
    rfl

theorem textsUnder_concat
    (h : scalarsUnder name (entries ++ [e]) = scalarsUnder name entries ++ [e.2]) :
    textsUnder name (entries ++ [e]) = textsUnder name entries ++
      if e.2.isNull = true then [] else [Value.display e.2] := by
  rw [textsUnder, h, List.filter_append, List.map_append, textsUnder]
  split_ifs with hnull
  · rw [List.filter_cons_of_neg (by simpa using hnull)]
    rfl
  · rw [List.filter_cons_of_pos (by simpa using hnull)]
    rfl

end

/-! ## Collecting them -/

theorem noteText_of_not_isScalar {texts : Dict String (List String)} {e : String × Value}
    (h : e.2.isScalar ≠ true) : noteText texts e = texts := by
  rw [noteText]
  exact if_pos (by simpa using h)

theorem noteText_of_isScalar {texts : Dict String (List String)} {e : String × Value}
    (h : e.2.isScalar = true) :
    noteText texts e = texts.insert e.1 (if e.2.isNull = true then (texts.get? e.1).getD []
      else ((texts.get? e.1).getD []).insert (Value.display e.2)) := by
  rw [noteText, if_neg (by simp [h])]
  split
  · rfl
  · simp only [List.insert]

theorem get?_noteText (texts : Dict String (List String)) (e : String × Value) (name : String) :
    (noteText texts e).get? name =
      if e.1 = name ∧ e.2.isScalar = true then
        some (if e.2.isNull = true then (texts.get? name).getD []
          else ((texts.get? name).getD []).insert (Value.display e.2))
      else texts.get? name := by
  by_cases hscalar : e.2.isScalar = true
  · rw [noteText_of_isScalar hscalar]
    by_cases hname : e.1 = name
    · rw [if_pos (And.intro hname hscalar), hname, Dict.get?_insert_self]
    · rw [Dict.get?_insert_of_ne (Ne.symm hname), if_neg fun h ↦ hname h.1]
  · rw [noteText_of_not_isScalar hscalar, if_neg fun h ↦ hscalar h.2]

theorem insert_dedup_reverse (text : String) (texts : List String) :
    texts.reverse.dedup.insert text = (texts ++ [text]).reverse.dedup := by
  rw [List.reverse_append, List.reverse_singleton, List.singleton_append]
  by_cases h : text ∈ texts.reverse
  · rw [List.insert_of_mem (List.mem_dedup.mpr h), List.dedup_cons_of_mem h]
  · rw [List.insert_of_not_mem (mt List.mem_dedup.mp h), List.dedup_cons_of_notMem h]

/-- Under a name stand the distinct texts, the last one first; a name that has no scalar value is
not there. -/
theorem get?_foldl_noteText (entries : List (String × Value)) (name : String) :
    (entries.foldl noteText Dict.empty).get? name
      = if scalarsUnder name entries = [] then none
        else some (textsUnder name entries).reverse.dedup := by
  induction entries using List.reverseRecOn with
  | nil => rfl
  | append_singleton entries e ih =>
    -- the texts before, whether the name is there or not
    have hseen : ((entries.foldl noteText Dict.empty).get? name).getD []
        = (textsUnder name entries).reverse.dedup := by
      rw [ih]
      split_ifs with hnone
      · rw [textsUnder, hnone]
        rfl
      · rfl
    have hvalues := scalarsUnder_concat name entries e
    rw [List.foldl_append, List.foldl_cons, List.foldl_nil, get?_noteText, hseen]
    by_cases hname : e.1 = name ∧ e.2.isScalar = true
    · rw [if_pos hname] at hvalues
      have hsome : scalarsUnder name entries ++ [e.2] ≠ [] :=
        List.append_ne_nil_of_right_ne_nil _ (List.cons_ne_nil _ _)
      rw [if_pos hname, hvalues, if_neg hsome, textsUnder_concat hvalues]
      split_ifs with hnull
      · rw [List.append_nil]
      · rw [insert_dedup_reverse]
    · rw [if_neg hname, List.append_nil] at hvalues
      rw [if_neg hname, ih, textsUnder, textsUnder, hvalues]

/-! ## Counts -/

/-- The names of the scalar values in a section, each with its count. -/
def counted (area : Section) (runs : List Run) : List (String × Nat) :=
  (distinctTexts area runs).toList.map fun e ↦ (e.1, e.2.length)

@[simp] theorem length_reverse_dedup (texts : List String) :
    texts.reverse.dedup.length = texts.toFinset.card := by
  rw [← List.card_toFinset, List.toFinset_reverse]

section

variable {area : Section} {runs others : List Run} {least more : Nat} {c : String × Nat}

theorem mem_counted_iff :
    c ∈ counted area runs ↔
      scalarsUnder c.1 (entriesIn area runs) ≠ [] ∧ c.2 = variety c.1 (entriesIn area runs) := by
  obtain ⟨name, count⟩ := c
  have hmem : (name, count) ∈ counted area runs ↔
      ∃ texts, (distinctTexts area runs).get? name = some texts ∧ texts.length = count := by
    rw [counted, List.mem_map]
    constructor
    · rintro ⟨⟨_, texts⟩, he, heq⟩
      obtain ⟨rfl, rfl⟩ := Prod.mk.inj heq
      exact ⟨texts, Dict.mem_toList_iff.mp he, rfl⟩
    · rintro ⟨texts, hget, rfl⟩
      exact ⟨_, Dict.mem_toList_iff.mpr hget, rfl⟩
  rw [hmem, distinctTexts, ← entriesIn, get?_foldl_noteText]
  split_ifs with hnone
  · simp [hnone]
  · simp [hnone, variety, eq_comm]

theorem nodup_names_counted (area : Section) (runs : List Run) :
    ((counted area runs).map Prod.fst).Nodup := by
  rw [counted, List.map_map]
  exact (distinctTexts area runs).keysIncrease.nodup

/-! ## Ranks -/

/-- Does the first of two counted names stand before the other one? Not if they are the same. -/
def Outranks (a b : String × Nat) : Prop :=
  b.2 < a.2 ∨ a.2 = b.2 ∧ compare a.1 b.1 = .lt

instance : Std.Irrefl Outranks := ⟨fun a h ↦ by
  obtain h | ⟨-, h⟩ := h
  · exact Nat.lt_irrefl _ h
  · exact absurd (h.symm.trans Std.ReflCmp.compare_self) (by decide)⟩

instance : Std.Antisymm Outranks := ⟨fun a b hab hba ↦ by
  obtain hlt | ⟨heq, hlt⟩ := hab
  · obtain hlt' | ⟨heq', -⟩ := hba
    · omega
    · omega
  · obtain hlt' | ⟨-, hlt'⟩ := hba
    · omega
    · rw [Std.OrientedCmp.gt_of_lt hlt] at hlt'
      cases hlt'⟩

theorem rankedBefore_iff {a b : String × Nat} :
    rankedBefore a b = true ↔ b.2 < a.2 ∨ a.2 = b.2 ∧ (compare a.1 b.1).isLE = true := by
  simp [rankedBefore]

theorem rankedBefore_trans {a b c : String × Nat} (hab : rankedBefore a b = true)
    (hbc : rankedBefore b c = true) : rankedBefore a c = true := by
  rw [rankedBefore_iff] at hab hbc ⊢
  obtain hab | ⟨hab, hle⟩ := hab
  · exact .inl (by omega)
  · obtain hbc | ⟨hbc, hle'⟩ := hbc
    · exact .inl (by omega)
    · exact .inr ⟨hab.trans hbc, Std.TransCmp.isLE_trans hle hle'⟩

theorem rankedBefore_total (a b : String × Nat) :
    (rankedBefore a b || rankedBefore b a) = true := by
  rw [Bool.or_eq_true, rankedBefore_iff, rankedBefore_iff]
  obtain hlt | heq | hlt := Nat.lt_trichotomy a.2 b.2
  · exact .inr (.inl hlt)
  · cases h : compare a.1 b.1 with
    | lt => exact .inl (.inr ⟨heq, rfl⟩)
    | eq => exact .inl (.inr ⟨heq, rfl⟩)
    | gt => exact .inr (.inr ⟨heq.symm, by rw [Std.OrientedCmp.lt_of_gt h]; rfl⟩)
  · exact .inl (.inl hlt)

theorem Outranks.of_rankedBefore {a b : String × Nat} (h : rankedBefore a b = true)
    (hne : a.1 ≠ b.1) : Outranks a b := by
  obtain hlt | ⟨heq, hle⟩ := rankedBefore_iff.mp h
  · exact .inl hlt
  · cases hcompare : compare a.1 b.1 with
    | lt => exact .inr ⟨heq, hcompare⟩
    | eq => exact absurd (Std.LawfulEqCmp.eq_of_compare hcompare) hne
    | gt =>
      rw [hcompare] at hle
      cases hle

/-- The counted names of a section with at least `least` texts, by rank. -/
def ranked (area : Section) (least : Nat) (runs : List Run) : List (String × Nat) :=
  ((counted area runs).filter fun c ↦ least ≤ c.2).mergeSort rankedBefore

theorem variedKeys_eq_map_ranked (area : Section) (least : Nat) (runs : List Run) :
    variedKeys area least runs = (ranked area least runs).map fun c ↦ (Key.mk area c.1).text :=
  rfl

theorem mem_ranked_iff :
    c ∈ ranked area least runs ↔
      (scalarsUnder c.1 (entriesIn area runs) ≠ [] ∧ c.2 = variety c.1 (entriesIn area runs)) ∧
        least ≤ c.2 := by
  rw [ranked, List.mem_mergeSort, List.mem_filter, mem_counted_iff, decide_eq_true_eq]

theorem pairwise_ranked (area : Section) (least : Nat) (runs : List Run) :
    (ranked area least runs).Pairwise Outranks := by
  have hsorted : (ranked area least runs).Pairwise fun a b ↦ rankedBefore a b = true :=
    List.pairwise_mergeSort @rankedBefore_trans rankedBefore_total _
  have hnames : ((ranked area least runs).map Prod.fst).Nodup := by
    rw [ranked, ((List.mergeSort_perm _ _).map _).nodup_iff]
    exact (nodup_names_counted area runs).sublist (List.filter_sublist.map _)
  exact (hsorted.and (List.pairwise_map.mp hnames)).imp fun h ↦ .of_rankedBefore h.1 h.2

/-- A ranked list is the only one with its members. -/
theorem ranked_eq_of_forall {l : List (String × Nat)} (h : l.Pairwise Outranks)
    (hmem : ∀ c, c ∈ l ↔ c ∈ ranked area least runs) : l = ranked area least runs :=
  h.eq_of_mem_iff (pairwise_ranked area least runs) hmem

/-- What passes a filter stands in front if nothing that does not comes before it. -/
theorem isPrefix_filter {α : Type} {p : α → Bool} {l : List α}
    (h : l.Pairwise fun a b ↦ p b = true → p a = true) : l.filter p <+: l := by
  induction l with
  | nil => exact List.nil_prefix
  | cons a rest ih =>
    obtain ⟨hfirst, hrest⟩ := List.pairwise_cons.mp h
    by_cases ha : p a = true
    · rw [List.filter_cons_of_pos ha]
      exact List.cons_prefix_cons.mpr ⟨rfl, ih hrest⟩
    · have hnone : rest.filter p = [] :=
        List.filter_eq_nil_iff.mpr fun b hb hpb ↦ ha (hfirst b hb hpb)
      rw [List.filter_cons_of_neg ha, hnone]
      exact List.nil_prefix

/-- A greater threshold cuts the ranked names off. -/
theorem ranked_isPrefix (h : least ≤ more) : ranked area more runs <+: ranked area least runs := by
  -- sorting and filtering commute, since the order leaves one arrangement only
  have hfilter : (ranked area least runs).filter (fun c ↦ more ≤ c.2) = ranked area more runs := by
    refine ranked_eq_of_forall ((pairwise_ranked area least runs).filter _) fun c ↦ ?_
    rw [List.mem_filter, mem_ranked_iff, mem_ranked_iff, decide_eq_true_eq]
    constructor
    · exact fun hc ↦ ⟨hc.1.1, hc.2⟩
    · exact fun hc ↦ ⟨⟨hc.1, Nat.le_trans h hc.2⟩, hc.2⟩
  rw [← hfilter]
  refine isPrefix_filter ((pairwise_ranked area least runs).imp fun {a b} hab hb ↦ ?_)
  rw [decide_eq_true_eq] at hb ⊢
  obtain hlt | ⟨heq, -⟩ := hab
  · omega
  · omega

/-! ## What more runs change -/

theorem entriesIn_subset (h : runs ⊆ others) : entriesIn area runs ⊆ entriesIn area others :=
  fun e he ↦ by
    rw [entriesIn, List.mem_flatMap] at he ⊢
    obtain ⟨run, hrun, he⟩ := he
    exact ⟨run, h hrun, he⟩

/-- A name has a column if it has scalar values and enough texts. -/
theorem text_mem_variedKeys_iff {name : String} :
    (Key.mk area name).text ∈ variedKeys area least runs ↔
      scalarsUnder name (entriesIn area runs) ≠ [] ∧
        least ≤ variety name (entriesIn area runs) := by
  rw [variedKeys_eq_map_ranked, List.mem_map]
  constructor
  · rintro ⟨c, hc, htext⟩
    obtain rfl : c.1 = name := by simpa [Key.text] using htext
    obtain ⟨⟨hvalues, hcount⟩, hleast⟩ := mem_ranked_iff.mp hc
    exact ⟨hvalues, hcount ▸ hleast⟩
  · rintro ⟨hvalues, hleast⟩
    exact ⟨(name, _), mem_ranked_iff.mpr ⟨⟨hvalues, rfl⟩, hleast⟩, rfl⟩

theorem variedKeys_subset (h : runs ⊆ others) :
    variedKeys area least runs ⊆ variedKeys area least others := by
  intro text htext
  obtain ⟨c, hc, rfl⟩ := List.mem_map.mp htext
  obtain ⟨⟨hvalues, hcount⟩, hleast⟩ := mem_ranked_iff.mp hc
  have hentries : entriesIn area runs ⊆ entriesIn area others := entriesIn_subset h
  have hmore : variety c.1 (entriesIn area runs) ≤ variety c.1 (entriesIn area others) :=
    variety_le hentries
  exact text_mem_variedKeys_iff.mpr ⟨scalarsUnder_ne_nil hentries hvalues, by omega⟩

theorem offeredKeys_subset (h : runs ⊆ others) : offeredKeys runs ⊆ offeredKeys others := by
  intro key hkey
  rw [mem_offeredKeys_iff] at hkey ⊢
  exact hkey.imp_right fun ⟨run, hrun, hname⟩ ↦ ⟨run, h hrun, hname⟩

/-! ## What their order changes -/

theorem variedKeys_eq_of_subset (h : runs ⊆ others) (h' : others ⊆ runs) :
    variedKeys area least runs = variedKeys area least others := by
  have hvariety (name : String) :
      variety name (entriesIn area runs) = variety name (entriesIn area others) :=
    Nat.le_antisymm (variety_le (entriesIn_subset h)) (variety_le (entriesIn_subset h'))
  have hvalues (name : String) : scalarsUnder name (entriesIn area runs) ≠ [] ↔
      scalarsUnder name (entriesIn area others) ≠ [] :=
    ⟨scalarsUnder_ne_nil (entriesIn_subset h), scalarsUnder_ne_nil (entriesIn_subset h')⟩
  have hranked : ranked area least runs = ranked area least others :=
    ranked_eq_of_forall (pairwise_ranked area least runs) fun c ↦ by
      rw [mem_ranked_iff, mem_ranked_iff, hvariety, hvalues]
  rw [variedKeys_eq_map_ranked, variedKeys_eq_map_ranked, hranked]

theorem distinctNames_eq_of_forall {names names' : List String}
    (h : ∀ name, name ∈ names ↔ name ∈ names') : distinctNames names = distinctNames names' := by
  have hordered (names : List String) :
      (distinctNames names).Pairwise fun a b ↦ compare a b = .lt :=
    List.pairwise_map.mpr (Dict.ofList _).keysIncrease
  refine List.Perm.eq_of_pairwise (fun a b _ _ hab hba ↦ ?_) (hordered names) (hordered names')
    ((List.perm_ext_iff_of_nodup (nodup_distinctNames _) (nodup_distinctNames _)).mpr fun name ↦ ?_)
  · rw [Std.OrientedCmp.gt_of_lt hab] at hba
    cases hba
  · simp [h]

theorem suggestions_eq_of_perm (h : runs.Perm others) : suggestions runs = suggestions others := by
  rw [suggestions, suggestions]
  refine List.map_congr_left fun area _ ↦ ?_
  have hnames := distinctNames_eq_of_forall fun name ↦ (h.flatMap_right (namesIn area)).mem_iff
  rw [sectionKeys, sectionKeys, hnames]

theorem columnNames_eq_of_perm (h : runs.Perm others) (grouping : Option Grouping)
    (choice : ColumnChoice) (thresholds : ColumnThresholds) :
    columnNames runs grouping choice thresholds
      = columnNames others grouping choice thresholds := by
  have hcolumns (area : Section) (listed : Option SectionColumns) (least : Nat)
      (limit : Option Nat) : sectionColumns area listed least limit runs
        = sectionColumns area listed least limit others := by
    have hvaried : variedKeys area least runs = variedKeys area least others :=
      variedKeys_eq_of_subset h.subset h.symm.subset
    simp only [sectionColumns, hvaried]
  rw [columnNames, columnNames, hcolumns, hcolumns]

end

/-- **What is found in runs does not depend on their order**, and more runs take nothing away. The
keys, the axes and the columns of reordered runs are the same. Which names have columns by variety
is told by their values and the number of their texts; with a greater threshold the columns are the
first ones. All keys that are offered and all columns are there still when there are more runs. -/
theorem columnNames_perm_and_variedKeys_subset (runs : List Run) :
    (∀ others, runs.Perm others →
      suggestions others = suggestions runs ∧
      axisOptions (suggestions others) = axisOptions (suggestions runs) ∧
      (∀ area least, variedKeys area least others = variedKeys area least runs) ∧
      ∀ grouping choice thresholds,
        columnNames others grouping choice thresholds
          = columnNames runs grouping choice thresholds) ∧
    (∀ area least name, (Key.mk area name).text ∈ variedKeys area least runs ↔
      scalarsUnder name (entriesIn area runs) ≠ [] ∧
        least ≤ variety name (entriesIn area runs)) ∧
    (∀ area least more, least ≤ more →
      variedKeys area more runs <+: variedKeys area least runs) ∧
    ∀ others, runs ⊆ others →
      offeredKeys runs ⊆ offeredKeys others ∧
      ∀ area least, variedKeys area least runs ⊆ variedKeys area least others := by
  refine ⟨?_, fun area least name ↦ text_mem_variedKeys_iff, ?_, ?_⟩
  · intro others hperm
    have hsuggestions := suggestions_eq_of_perm hperm.symm
    refine ⟨hsuggestions, by rw [hsuggestions], fun area least ↦ ?_, ?_⟩
    · exact variedKeys_eq_of_subset hperm.symm.subset hperm.subset
    · exact columnNames_eq_of_perm hperm.symm
  · intro area least more hle
    exact (ranked_isPrefix hle).map fun c ↦ (Key.mk area c.1).text
  · intro others hsubset
    exact ⟨offeredKeys_subset hsubset, fun area least ↦ variedKeys_subset hsubset⟩

/-- Payloads of two runs with the same seed and different optimizers. -/
def optimizerPayloads : List Json :=
  [.object [("name", .string "a"), ("config", .object [
      ("opt", .object [("value", .string "sgd")]), ("seed", .object [("value", .string "one")])])],
    .object [("name", .string "b"), ("config", .object [
      ("opt", .object [("value", .string "adam")]), ("seed", .object [("value", .string "one")])])]]

/-- Both keys have a column if one text is enough, and only the optimizer if two are needed, which
the second run brings. -/
theorem variedKeys_of_optimizers :
    let runs := optimizerPayloads.filterMap Run.ofPayload?
    variedKeys .config 1 runs.reverse = variedKeys .config 1 runs ∧
      variedKeys .config 2 runs <+: variedKeys .config 1 runs ∧
      variedKeys .config 2 (runs.take 1) ⊆ variedKeys .config 2 runs ∧
      "config:seed" ∈ variedKeys .config 1 runs ∧ "config:seed" ∉ variedKeys .config 2 runs ∧
      "config:opt" ∉ variedKeys .config 2 (runs.take 1) ∧
      "config:opt" ∈ variedKeys .config 2 runs := by
  intro runs
  obtain ⟨hperm, hvaried, hprefix, hsubset⟩ := columnNames_perm_and_variedKeys_subset runs
  obtain ⟨-, hvariedFirst, -⟩ := columnNames_perm_and_variedKeys_subset (runs.take 1)
  obtain ⟨-, -, -, hsubsetFirst⟩ := columnNames_perm_and_variedKeys_subset (runs.take 1)
  refine ⟨(hperm _ runs.reverse_perm.symm).2.2.1 .config 1, hprefix .config 1 2 (by decide),
    (hsubsetFirst _ (List.take_subset ..)).2 .config 2, (hvaried .config 1 "seed").mpr ?_,
    mt (hvaried .config 2 "seed").mp ?_, mt (hvariedFirst .config 2 "opt").mp ?_,
    (hvaried .config 2 "opt").mpr ?_⟩
  · decide
  · decide
  · decide
  · decide

end RunQuery.Discovery

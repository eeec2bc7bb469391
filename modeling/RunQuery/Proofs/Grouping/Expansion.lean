import RunQuery.Proofs.Filter.Comparison
import RunQuery.Proofs.Filter.Compiled
import RunQuery.Proofs.Grouping.Partition

/-!
# Collapsed and expanded groups

A row of a collapsed view stands for the runs that share a label, which is a text. What it expands
to is asked for by a filter, which compares values. The two agree but for three things: a label that
not-a-number gave is not found, another label is found whose value is equal as a number or up to the
sign of zeros, and nothing at all is found in a section that no run has.
-/

namespace RunQuery.Grouping

/-! ## What the filter for a label finds -/

/-- Both runs have a value under the key, and the two are in a relation. -/
def Relates (key : Key) (R : Value → Value → Prop) (first second : Run) : Prop :=
  ∃ v w, first.value? key = some v ∧ second.value? key = some w ∧ R v w

/-- The filter for the label of one run finds another. -/
def Finds (key : Key) (run other : Run) : Prop :=
  key.inSection.isKnown = true ∧
    ((label key other = label key run ∧ ¬Relates key Value.AreNaN other run) ∨
      (label key run ≠ "" ∧ Relates key Value.Coincide other run))

@[simp] theorem toNumber?_empty : Value.toNumber? (.string "") = none := by
  decide

theorem not_areNaN_of_display_eq {v w : Value} (h : Value.display w = "") : ¬Value.AreNaN v w := by
  intro hnan
  obtain rfl | rfl := hnan.2 w (by simp)
  · exact absurd h (by decide)
  · exact absurd h (by decide)

@[simp] theorem equal_empty_iff (v : Value) :
    Value.equal v (.string "") = true ↔ Value.display v = "" := by
  rw [Value.equal_iff]
  constructor
  · rintro (⟨h, -⟩ | ⟨_, _, -, h, -⟩ | h)
    · exact h
    · simp at h
    · cases v with
      | string s => exact beq_iff_eq.mp h
      | null => cases h
      | bool b => cases h
      | number x => cases h
      | array items => cases h
      | object members => cases h
  · intro h
    exact .inl ⟨h, not_areNaN_of_display_eq rfl⟩

theorem equal_null {literal : Value} (h : Value.display literal ≠ "") :
    Value.equal .null literal = false := by
  rw [Bool.eq_false_iff, ne_eq, Value.equal_iff]
  rintro (⟨heq, -⟩ | ⟨_, _, hnone, -⟩ | hidentical)
  · exact h heq.symm
  · cases hnone
  · cases literal with
    | null => exact h rfl
    | bool b => cases hidentical
    | number x => cases hidentical
    | string s => cases hidentical
    | array items => cases hidentical
    | object members => cases hidentical

theorem compares_eq_iff {field : Option Value} {literal : Value}
    (h : Value.display literal ≠ "") :
    Operator.eq.compares field literal = true
      ↔ ∃ v, field = some v ∧ Value.equal v literal = true := by
  have hliteral : literal.isNull = false := by
    rw [Bool.eq_false_iff]
    intro hnull
    rw [Value.eq_null_of_isNull hnull] at h
    exact h rfl
  have hcompares : Operator.eq.compares field literal
      = Value.equal (field.getD .null) literal := by
    rw [Operator.compares_eq, hliteral, Bool.or_false, Bool.and_false]
    split
    · next hnull => rw [Value.eq_null_of_isNull hnull, equal_null h]
    · rfl
  rw [hcompares]
  cases field with
  | none => simp [equal_null h]
  | some v => simp

theorem compares_empty_iff (field : Option Value) :
    Operator.eq.compares field .null = true ∨ Operator.eq.compares field (.string "") = true
      ↔ (field.map Value.display).getD "" = "" := by
  have hdisplay : (field.map Value.display).getD "" = Value.display (field.getD .null) := by
    cases field <;> rfl
  have hnull : Tree.isNull (.null : Value) = true := rfl
  have hempty : Tree.isNull (.string "" : Value) = false := rfl
  rw [Operator.compares_eq, Operator.compares_eq, hdisplay, hnull, hempty]
  cases hfield : (field.getD .null).isNull with
  | true =>
    rw [Value.eq_null_of_isNull hfield]
    simp [Value.display]
  | false => simp [equal_empty_iff]

theorem label_of_value {key : Key} {run : Run} {v : Value} (h : run.value? key = some v) :
    label key run = Value.display v := by
  rw [label, h]
  rfl

theorem sameLabel_of_label_ne {key : Key} {run : Run} (h : label key run ≠ "") :
    ∃ v, run.value? key = some v ∧ Value.display v ≠ "" ∧
      sameLabel key run = Filter.compare key .eq v := by
  cases hvalue : run.value? key with
  | none =>
    rw [label, hvalue] at h
    exact absurd rfl h
  | some v =>
    rw [label_of_value hvalue] at h
    have hkept : (some v).filter (fun v ↦ !(Value.display v).isEmpty) = some v := by
      rw [Option.filter_some, if_pos (by simpa using h)]
    refine ⟨v, rfl, h, ?_⟩
    rw [sameLabel, hvalue, hkept]

theorem sameLabel_of_label_eq {key : Key} {run : Run} (h : label key run = "") :
    sameLabel key run
      = Filter.any [Filter.compare key .eq .null, Filter.compare key .eq (.string "")] := by
  have hdropped : (run.value? key).filter (fun v ↦ !(Value.display v).isEmpty) = none := by
    cases hvalue : run.value? key with
    | none => rfl
    | some v =>
      rw [label_of_value hvalue] at h
      rw [Option.filter_some, if_neg (by simpa using h)]
  rw [sameLabel, hdropped]

/-- **What the filter for a label finds**, by labels and values. -/
@[simp] theorem passes_sameLabel_iff (key : Key) (run other : Run) :
    (sameLabel key run).passes Pattern.test? other = true ↔ Finds key run other := by
  have hop : Operator.eq ≠ .pattern := by decide
  by_cases hlabel : label key run = ""
  · -- null and the empty text are asked for, and an absent field counts as null
    simp only [sameLabel_of_label_eq hlabel, Filter.passes_any, List.any_cons, List.any_nil,
      Filter.passes_compare _ _ hop, Bool.or_false]
    rw [← Bool.and_or_distrib_left, Bool.and_eq_true, Bool.or_eq_true, compares_empty_iff]
    refine and_congr_right fun _ ↦ ?_
    constructor
    · intro hother
      refine .inl ⟨hother.trans hlabel.symm, ?_⟩
      rintro ⟨v, w, -, hw, hnan⟩
      rw [label_of_value hw] at hlabel
      exact not_areNaN_of_display_eq hlabel hnan
    · rintro (⟨hother, -⟩ | ⟨hne, -⟩)
      · exact hother.trans hlabel
      · exact absurd hlabel hne
  · -- the value is asked for, which no run without a value has
    obtain ⟨w, hw, htext, hfilter⟩ := sameLabel_of_label_ne hlabel
    rw [hfilter, Filter.passes_compare _ _ hop, Bool.and_eq_true, compares_eq_iff htext]
    refine and_congr_right fun _ ↦ ?_
    constructor
    · rintro ⟨v, hv, hequal⟩
      obtain ⟨hdisplay, hnan⟩ | hcoincide := (Value.equal_iff v w).mp hequal
      · refine .inl ⟨by rw [label_of_value hv, label_of_value hw, hdisplay], ?_⟩
        rintro ⟨v', w', hv', hw', hnan'⟩
        obtain rfl : v = v' := Option.some.inj (hv.symm.trans hv')
        obtain rfl : w = w' := Option.some.inj (hw.symm.trans hw')
        exact hnan hnan'
      · exact .inr ⟨hlabel, v, w, hv, hw, hcoincide⟩
    · rintro (⟨hother, hnan⟩ | ⟨-, v, w', hv, hw', hcoincide⟩)
      · obtain ⟨v, hv, -⟩ := sameLabel_of_label_ne (hother ▸ hlabel)
        rw [label_of_value hv, label_of_value hw] at hother
        exact ⟨v, hv, (Value.equal_iff v w).mpr
          (.inl ⟨hother, fun hnan' ↦ hnan ⟨v, w, hv, hw, hnan'⟩⟩)⟩
      · obtain rfl : w = w' := Option.some.inj (hw.symm.trans hw')
        exact ⟨v, hv, (Value.equal_iff v w).mpr (.inr hcoincide)⟩

instance (key : Key) (run other : Run) : Decidable (Finds key run other) :=
  decidable_of_iff _ (passes_sameLabel_iff key run other)

/-! ## What a group expands to -/

/-- Among the runs, those that the filters for the labels of one find are those that share the
labels. -/
def Faithful (keys : List Key) (run : Run) (runs : List Run) : Prop :=
  ∀ other ∈ runs,
    (∀ key ∈ keys, Finds key run other) ↔ ∀ key ∈ keys, label key other = label key run

instance (keys : List Key) (run : Run) (runs : List Run) : Decidable (Faithful keys run runs) :=
  inferInstanceAs (Decidable (∀ other ∈ runs, _ ↔ _))

theorem filter_eq_filter_iff {α : Type} {p q : α → Bool} {l : List α} :
    l.filter p = l.filter q ↔ ∀ x ∈ l, (p x = true ↔ q x = true) := by
  constructor
  · intro h x hx
    have hmem : x ∈ l.filter p ↔ x ∈ l.filter q := by rw [h]
    rwa [List.mem_filter, List.mem_filter, and_congr_right_iff, imp_iff_right hx] at hmem
  · intro h
    exact List.filter_congr fun x hx ↦ Bool.eq_iff_iff.mpr (h x hx)

/-- The runs that share the labels of one under all the keys. -/
def sharing (keys : List Key) (run : Run) (runs : List Run) : List Run :=
  runs.filter fun other ↦ keys.all fun key ↦ label key other = label key run

/-- The filter narrowed to the labels of a run selects just the runs that share them if it is
faithful, and only then. -/
theorem select_eq_sharing_iff (filter : Filter) (keys : List Key) (run : Run) (runs : List Run) :
    (Filter.all (filter :: keys.map (sameLabel · run))).select runs
        = sharing keys run (filter.select runs)
      ↔ Faithful keys run (filter.select runs) := by
  rw [Filter.select_all_cons, sharing, filter_eq_filter_iff, Faithful]
  refine forall₂_congr fun other _ ↦ ?_
  have hfinds : Filter.passesAll Pattern.test? other (keys.map (sameLabel · run)) = true
      ↔ ∀ key ∈ keys, Finds key run other := by
    simp
  have hshares : (keys.all fun key ↦ label key other = label key run) = true
      ↔ ∀ key ∈ keys, label key other = label key run := by
    simp
  rw [hfinds, hshares]

/-- Filters for labels are faithful where all values are as their texts say. -/
theorem faithful_of_isPlain {keys : List Key} {run : Run} {runs : List Run}
    (hknown : ∀ key ∈ keys, key.inSection.isKnown = true)
    (hplain : ∀ key ∈ keys, ∀ other ∈ run :: runs, ∀ v, other.value? key = some v →
      Value.IsPlain v) : Faithful keys run runs := by
  intro other hother
  refine forall₂_congr fun key hkey ↦ ?_
  have hrun := hplain key hkey run List.mem_cons_self
  have hother' := hplain key hkey other (List.mem_cons_of_mem _ hother)
  constructor
  · rintro ⟨-, ⟨hlabel, -⟩ | ⟨-, v, w, hv, hw, hcoincide⟩⟩
    · exact hlabel
    · rw [label_of_value hv, label_of_value hw]
      exact (hother' v hv).display_eq_of_coincide (hrun w hw) hcoincide
  · intro hlabel
    refine ⟨hknown key hkey, .inl ⟨hlabel, ?_⟩⟩
    rintro ⟨v, w, hv, hw, hnan⟩
    exact (hother' v hv).not_areNaN (hrun w hw) hnan

variable {grouping : Grouping} {filter : Filter} {runs : List Run} {run : Run}

theorem runs_eq_sharing_of_group {g : RunGroup} (hg : g ∈ partition grouping.group runs)
    (hrun : run ∈ g.runs) : g.runs = sharing [grouping.group] run runs := by
  rw [runs_eq_of_mem_partition _ hg hrun, members, sharing]
  simp

theorem runs_eq_sharing_of_subgroup {key : Key} {g h : RunGroup}
    (hg : g ∈ partition grouping.group runs) (hh : h ∈ partition key g.runs) (hrun : run ∈ h.runs) :
    h.runs = sharing [grouping.group, key] run runs := by
  have hmem : run ∈ g.runs := by
    rw [runs_eq_of_mem_partition _ hh hrun] at hrun
    exact (List.mem_filter.mp hrun).1
  rw [runs_eq_of_mem_partition _ hh hrun, runs_eq_of_mem_partition _ hg hmem, members, members,
    sharing, List.filter_filter]
  refine List.filter_congr fun other _ ↦ ?_
  simp [Bool.and_comm]

theorem expandGroup_eq :
    expandGroup grouping filter run
      = Filter.all (filter :: [grouping.group].map (sameLabel · run)) :=
  rfl

theorem expandSubgroup_eq {key : Key} (hkey : grouping.subgroup = some key) :
    expandSubgroup grouping filter run
      = Filter.all (filter :: [grouping.group, key].map (sameLabel · run)) := by
  rw [expandSubgroup, hkey]
  rfl

/-! ## Collapsed and expanded -/

theorem select_expandGroup_eq_iff {g : RunGroup}
    (hg : g ∈ partition grouping.group (filter.select runs)) (hrun : run ∈ g.runs) :
    (expandGroup grouping filter run).select runs = g.runs
      ↔ Faithful [grouping.group] run (filter.select runs) := by
  rw [runs_eq_sharing_of_group hg hrun, expandGroup_eq, select_eq_sharing_iff]

theorem select_expandSubgroup_eq_iff {key : Key} {g h : RunGroup}
    (hkey : grouping.subgroup = some key) (hg : g ∈ partition grouping.group (filter.select runs))
    (hh : h ∈ partition key g.runs) (hrun : run ∈ h.runs) :
    (expandSubgroup grouping filter run).select runs = h.runs
      ↔ Faithful [grouping.group, key] run (filter.select runs) := by
  rw [runs_eq_sharing_of_subgroup hg hh hrun, expandSubgroup_eq hkey, select_eq_sharing_iff]

/-- **Collapsed and expanded grouping.** Each shown run is in a group, and in a subgroup of it. What
it expands to are the runs of these exactly if the filters for its labels are faithful. Then a
collapsed row counts what it expands to. -/
theorem select_expand_eq_runs_iff (grouping : Grouping) (filter : Filter) (runs : List Run) :
    (∀ run ∈ filter.select runs,
      (∃ g ∈ partition grouping.group (filter.select runs), run ∈ g.runs) ∧
      ∀ g ∈ partition grouping.group (filter.select runs), run ∈ g.runs →
        ((expandGroup grouping filter run).select runs = g.runs
          ↔ Faithful [grouping.group] run (filter.select runs)) ∧
        ∀ key, grouping.subgroup = some key →
          (∃ h ∈ partition key g.runs, run ∈ h.runs) ∧
          ∀ h ∈ partition key g.runs, run ∈ h.runs →
            ((expandSubgroup grouping filter run).select runs = h.runs
              ↔ Faithful [grouping.group, key] run (filter.select runs))) ∧
    (∀ row ∈ rows (some grouping) .group (filter.select runs),
      Faithful [grouping.group] row.run (filter.select runs) →
        row.counts.head? = some ((expandGroup grouping filter row.run).select runs).length) ∧
    ∀ run ∈ filter.select runs, Faithful [grouping.group] run (filter.select runs) →
      ∀ key, grouping.subgroup = some key →
        ∀ row ∈ rows (some grouping) .subgroup ((expandGroup grouping filter run).select runs),
          Faithful [grouping.group, key] row.run (filter.select runs) →
            row.counts = [((expandSubgroup grouping filter row.run).select runs).length,
              ((expandGroup grouping filter run).select runs).length] := by
  refine ⟨fun run hrun ↦ ⟨exists_mem_partition _ hrun, fun g hg hmem ↦
    ⟨select_expandGroup_eq_iff hg hmem, fun key hkey ↦ ⟨exists_mem_partition _ hmem,
      fun h hh hmem' ↦ select_expandSubgroup_eq_iff hkey hg hh hmem'⟩⟩⟩, ?_, ?_⟩
  · intro row hrow hfaithful
    obtain ⟨g, hg, hfirst, hcount⟩ := exists_group_of_mem_groupRows hrow
    rw [hcount, (select_expandGroup_eq_iff hg (List.mem_of_head? hfirst)).mpr hfaithful]
  · intro run hrun hgroup key hkey row hrow hfaithful
    obtain ⟨g, hg, hmem⟩ := exists_mem_partition grouping.group hrun
    rw [(select_expandGroup_eq_iff hg hmem).mpr hgroup] at hrow ⊢
    have hrow' : row ∈ subgroupRows key g.runs := by
      rwa [rows, hkey] at hrow
    obtain ⟨h, hh, hfirst, hcounts⟩ := exists_group_of_mem_subgroupRows hrow'
    rw [hcounts, (select_expandSubgroup_eq_iff hkey hg hh (List.mem_of_head? hfirst)).mpr hfaithful]

/-- Runs with texts and numbers under the two keys, as they are collapsed and expanded. -/
theorem select_expand_eq_runs_of_texts_and_numbers :
    let run (id opt : String) (lr : Nat) : Run :=
      { (default : Run) with
        id := id
        config := Dict.ofList [("opt", .string opt), ("lr", .number (Double.ofNat lr))] }
    let a := run "a" "sgd" 1
    let runs := [a, run "b" "adam" 1, run "c" "sgd" 2, run "d" "sgd" 1]
    let grouping : Grouping := ⟨⟨.config, "opt"⟩, some ⟨.config, "lr"⟩⟩
    ∃ g ∈ partition grouping.group ((Filter.all []).select runs),
      ∃ h ∈ partition ⟨.config, "lr"⟩ g.runs, a ∈ h.runs ∧
        (expandGroup grouping (.all []) a).select runs = g.runs ∧
        (expandSubgroup grouping (.all []) a).select runs = h.runs ∧
        g.runs.map Run.id = ["a", "c", "d"] ∧ h.runs.map Run.id = ["a", "d"] := by
  intro run a runs grouping
  have hshown : a ∈ (Filter.all []).select runs := by
    rw [Filter.select_all_nil]
    exact List.mem_cons_self
  obtain ⟨⟨g, hg, hmem⟩, hexpand⟩ :=
    (select_expand_eq_runs_iff grouping (.all []) runs).1 a hshown
  obtain ⟨hgroup, hsubgroup⟩ := hexpand g hg hmem
  obtain ⟨⟨h, hh, hmem'⟩, hexpand'⟩ := hsubgroup _ rfl
  have hgroup' := hgroup.mpr (by decide)
  have hsubgroup' := (hexpand' h hh hmem').mpr (by decide)
  refine ⟨g, hg, h, hh, hmem', hgroup', hsubgroup', ?_, ?_⟩
  · rw [← hgroup']
    decide
  · rw [← hsubgroup']
    decide

/-- **A group does not expand to its runs** where not-a-number gave its label: not even the run that
is expanded is found. -/
theorem select_expandGroup_ne_of_nan :
    ¬ ∀ (grouping : Grouping) (filter : Filter) (runs : List Run) (run : Run),
      run ∈ filter.select runs →
      ∀ g ∈ partition grouping.group (filter.select runs), run ∈ g.runs →
        (expandGroup grouping filter run).select runs = g.runs := by
  intro h
  let run (id : String) : Run :=
    { (default : Run) with id := id, summary := Dict.ofList [("loss", .number .nan)] }
  let grouping : Grouping := ⟨⟨.summary, "loss"⟩, none⟩
  have hshown : run "a" ∈ (Filter.all []).select [run "a", run "b"] := by
    rw [Filter.select_all_nil]
    exact List.mem_cons_self
  obtain ⟨g, hg, hmem⟩ := exists_mem_partition grouping.group hshown
  have hnothing : (expandGroup grouping (.all []) (run "a")).select [run "a", run "b"] = [] :=
    List.eq_nil_of_length_eq_zero (by decide)
  rw [← h grouping (.all []) _ _ hshown g hg hmem, hnothing] at hmem
  cases hmem

end RunQuery.Grouping

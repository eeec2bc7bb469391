import RunQuery.Proofs.Selection.Edits

/-!
# Ranges with a width

However bounds are set and removed, no key is left with a range whose two ends are equal. Strict and
inclusive bounds may stand on one side of a key, and then the tighter one hides the other until it
is removed. So it is not enough to compare the bound that is set with the one opposite: what is
checked is the range that all bounds on the key leave, and all of them are dropped where it has no
width.

The check looks at one key only. The range of a key depends on the conditions on it alone, so that
of any other key has the width that it had.
-/

namespace RunQuery.Selection

variable {conditions : List Condition}

/-! ## The conditions on one key -/

theorem rangeOf_eq_foldl_filter (conditions : List Condition) (key : Key) :
    rangeOf conditions key = (conditions.filter fun c ↦ c.key = key).foldl
      (fun b c ↦ b.tighten c.op c.literal) Bounds.unbounded := by
  rw [List.foldl_filter]
  simp only [rangeOf, decide_eq_true_eq]

theorem filter_key_filter {key : Key} {keep : Condition → Bool}
    (h : ∀ c, c.key = key → keep c = true) (conditions : List Condition) :
    ((conditions.filter keep).filter fun c ↦ c.key = key)
      = conditions.filter fun c ↦ c.key = key := by
  rw [List.filter_filter]
  refine List.filter_congr fun c _ ↦ ?_
  by_cases hkey : c.key = key
  · rw [h c hkey, Bool.and_true]
  · simp [hkey]

theorem filter_key_edit {key key' : Key} (h : key' ≠ key) (op : Operator) (value : Option Double) :
    ((edit conditions key op value).filter fun c ↦ c.key = key')
      = conditions.filter fun c ↦ c.key = key' := by
  have hnew : ((value.map fun x ↦ (⟨key, op, .number x⟩ : Condition)).toList.filter
      fun c ↦ c.key = key') = [] := by
    cases value with
    | none => rfl
    | some x => simp [h.symm]
  have hreplaced : ((replaceBound conditions key op value).filter fun c ↦ c.key = key')
      = conditions.filter fun c ↦ c.key = key' := by
    rw [replaceBound, List.filter_append, hnew, List.append_nil,
      filter_key_filter fun c hc ↦ by simp [isBound, hc, h]]
  rw [edit]
  by_cases hdegenerate : (rangeOf (replaceBound conditions key op value) key).isDegenerate
  · rw [if_pos hdegenerate, withoutBounds, filter_key_filter fun c hc ↦ by simp [hc, h], hreplaced]
  · rw [if_neg hdegenerate, hreplaced]

theorem rangeOf_edit_of_ne {key key' : Key} (h : key' ≠ key) (op : Operator)
    (value : Option Double) :
    rangeOf (edit conditions key op value) key' = rangeOf conditions key' := by
  rw [rangeOf_eq_foldl_filter, filter_key_edit h, ← rangeOf_eq_foldl_filter]

/-- Where every condition is an ordering, nothing is left of a range that is dropped. -/
theorem rangeOf_withoutBounds_self (h : ∀ c ∈ conditions, c.op.isOrdering = true) (key : Key) :
    rangeOf (withoutBounds conditions key) key = Bounds.unbounded := by
  have hnone : ((withoutBounds conditions key).filter fun c ↦ c.key = key) = [] := by
    rw [withoutBounds, List.filter_filter, List.filter_eq_nil_iff]
    intro c hc
    simp [h c hc]
  rw [rangeOf_eq_foldl_filter, hnone]
  rfl

/-! ## The invariant -/

/-- Conditions that orderings set, of which no key has a range with equal ends. -/
structure IsWide (conditions : List Condition) : Prop where
  /-- They are bounds, and none has another of its kind beside it. -/
  bounding : Bounding (fun op ↦ op.isOrdering = true) conditions
  /-- Every range has a width. -/
  width : ∀ key, (rangeOf conditions key).isDegenerate = false

theorem isWide_nil : IsWide [] := ⟨Bounding.nil _, fun _ ↦ rfl⟩

theorem IsWide.edit (h : IsWide conditions) (key : Key) {op : Operator}
    (hop : op.isOrdering = true) (value : Option Double) :
    IsWide (edit conditions key op value) := by
  refine ⟨h.bounding.edit key hop value, fun key' ↦ ?_⟩
  -- only the range of the key can change, and that one is checked
  by_cases hkey : key' = key
  · subst hkey
    rw [Selection.edit]
    by_cases hdegenerate : (rangeOf (replaceBound conditions key' op value) key').isDegenerate
    · have hordering := (h.bounding.replaceBound key' hop value).operator
      rw [if_pos hdegenerate, rangeOf_withoutBounds_self hordering]
      rfl
    · rw [if_neg hdegenerate]
      exact Bool.eq_false_iff.mpr hdegenerate
  · rw [rangeOf_edit_of_ne hkey]
    exact h.width key'

/-- **Editing keeps selections in canonical form and their ranges wide.** After one or more edits
with orderings, a selection is an `OR` of one `AND` of conditions, no two of them with the same key
and operator, and no key has a range with two ends that are equal as numbers. -/
theorem edited_eq_any_all_and_width {start : Filter} (hstart : start = everything ∨ start = nothing)
    {edits : List Edit} (hne : edits ≠ [])
    (huses : ∀ e ∈ edits, e.Uses fun op ↦ op.isOrdering = true) :
    (∃ conditions : List Condition,
      edited start edits = Filter.any [Filter.all (conditions.map Filter.leaf)] ∧
        (conditions.map fun c ↦ (c.key, c.op)).Nodup) ∧
      ∀ key low high, (bounds (edited start edits) key).low = some low →
        (bounds (edited start edits) key).high = some high → Double.numEq low high = false := by
  have hasks : AsksFor start [] := by
    rcases hstart with rfl | rfl
    · exact asksFor_everything
    · exact asksFor_nothing
  obtain ⟨e, rest, rfl⟩ := List.exists_cons_of_ne_nil hne
  obtain ⟨hfirst, hrest⟩ := List.forall_mem_cons.mp huses
  -- the first edit brings a selection of no run into canonical form, too
  obtain ⟨changed, hchanged, hwide⟩ :=
    exists_ofConditions_apply IsWide.edit hasks isWide_nil hfirst
  obtain ⟨conditions, hconditions, hwide⟩ := exists_ofConditions_edited IsWide.edit hwide hrest
  rw [edited_cons, hchanged, hconditions]
  refine ⟨⟨conditions, rfl, hwide.bounding.distinct⟩, fun key low high hlow hhigh ↦ ?_⟩
  have hwidth := hwide.width key
  rw [bounds_ofConditions] at hlow hhigh
  rwa [Bounds.isDegenerate, hlow, hhigh] at hwidth

/-- A strict bound hides an inclusive one of the same side that meets the upper end. Once it is
removed the range has no width and is dropped. The ends of another key are no numbers and stay. -/
theorem edited_eq_any_all_and_width_of_hidden_bound :
    let rate : Key := ⟨.config, "lr"⟩
    let loss : Key := ⟨.summary, "loss"⟩
    let edits := [Edit.bound rate .ge (some (Double.ofNat 1)),
      .bound rate .gt (some (Double.ofNat 2)), .bound rate .le (some (Double.ofNat 1)),
      .range loss ⟨some .nan, some .nan⟩, .bound rate .gt none]
    edits ≠ [] ∧ (∀ e ∈ edits, e.Uses fun op ↦ op.isOrdering = true) ∧
      bounds (edited nothing edits) rate = Bounds.unbounded ∧
      bounds (edited nothing edits) loss = ⟨some .nan, some .nan⟩ ∧
      ∀ key low high, (bounds (edited nothing edits) key).low = some low →
        (bounds (edited nothing edits) key).high = some high → Double.numEq low high = false := by
  intro rate loss edits
  have huses : ∀ e ∈ edits, e.Uses fun op ↦ op.isOrdering = true := by
    simp [edits, Edit.Uses, Operator.isOrdering, Operator.isLowerBound, Operator.isUpperBound]
  exact ⟨List.cons_ne_nil _ _, huses, by decide, by decide,
    (edited_eq_any_all_and_width (.inr rfl) (List.cons_ne_nil _ _) huses).2⟩

end RunQuery.Selection

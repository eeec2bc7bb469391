import RunQuery.Proofs.Selection.Edits

/-!
# Ranges that are set and read back

Setting the range of a key sets its lower end and then its upper end. What is read afterwards is the
range that was set, unless the new lower end meets the *old* upper end: between the two steps the
range then has no width, and all bounds on the key are dropped, the new lower end among them. Only
the new upper end is left.

The range before the edit counts with its upper end only, and all other keys do not count at all.
-/

namespace RunQuery

namespace Bounds

/-- The range with another end, the one that the operator sets. -/
def withEnd (range : Bounds) (op : Operator) (value : Option Double) : Bounds :=
  match op with
  | .ge => { range with low := value }
  | .le => { range with high := value }
  | _ => range

/-- The range, or none where its ends meet. -/
def cleared (range : Bounds) : Bounds := if range.isDegenerate then unbounded else range

end Bounds

namespace Selection

/-- Is this the operator of an end that belongs to its range? -/
def Inclusive (op : Operator) : Prop := op = .ge ∨ op = .le

variable {conditions : List Condition}

/-! ## The range of a key -/

theorem rangeOf_concat (conditions : List Condition) (c : Condition) (key : Key) :
    rangeOf (conditions ++ [c]) key
      = if c.key = key then (rangeOf conditions key).tighten c.op c.literal
        else rangeOf conditions key := by
  rw [rangeOf, List.foldl_append]
  rfl

theorem rangeOf_eq (h : Bounding Inclusive conditions) (key : Key) :
    rangeOf conditions key = ⟨boundOf? conditions key .ge, boundOf? conditions key .le⟩ := by
  induction conditions using List.reverseRecOn with
  | nil => rfl
  | append_singleton conditions c ih =>
    have hfront : Bounding Inclusive conditions :=
      ⟨fun d hd ↦ h.number d (List.mem_append_left _ hd),
        fun d hd ↦ h.operator d (List.mem_append_left _ hd),
        h.distinct.sublist ((List.sublist_append_left _ _).map _)⟩
    have hnew : (c.key, c.op) ∉ conditions.map fun c ↦ (c.key, c.op) := by
      have hdistinct := h.distinct
      rw [List.map_append, List.nodup_append] at hdistinct
      exact fun hmem ↦ hdistinct.2.2 _ hmem _ (by simp) rfl
    obtain ⟨x, hx⟩ := h.number c (by simp)
    obtain ⟨ckey, op, literal⟩ := c
    dsimp only at hx hnew
    subst hx
    rw [rangeOf_concat, ih hfront]
    by_cases hkey : ckey = key
    · subst hkey
      -- the new bound is the only one of its operator, so nothing tighter stands before it
      have hnone := boundOf?_eq_none hnew
      obtain rfl | rfl : op = .ge ∨ op = .le := h.operator ⟨ckey, op, .number x⟩ (by simp)
      · simp [hnone, Bounds.tighten, Value.toNumber?, Operator.isLowerBound]
      · simp [hnone, Bounds.tighten, Value.toNumber?, Operator.isLowerBound,
          Operator.isUpperBound]
    · simp [hkey]

theorem rangeOf_replaceBound (h : Bounding Inclusive conditions) (key key' : Key) {op : Operator}
    (hop : Inclusive op) (value : Option Double) :
    rangeOf (replaceBound conditions key op value) key'
      = if key' = key then (rangeOf conditions key).withEnd op value
        else rangeOf conditions key' := by
  rw [rangeOf_eq (h.replaceBound key hop value), rangeOf_eq h, rangeOf_eq h]
  by_cases hkey : key' = key
  · subst hkey
    obtain rfl | rfl := hop
    · simp [Bounds.withEnd]
    · simp [Bounds.withEnd]
  · simp [hkey]

theorem rangeOf_withoutBounds (h : Bounding Inclusive conditions) (key key' : Key) :
    rangeOf (withoutBounds conditions key) key'
      = if key' = key then Bounds.unbounded else rangeOf conditions key' := by
  have hkept : Bounding Inclusive (withoutBounds conditions key) := h.filter _
  rw [rangeOf_eq hkept, rangeOf_eq h, boundOf?_withoutBounds _ _ _ rfl,
    boundOf?_withoutBounds _ _ _ rfl]
  by_cases hkey : key' = key
  · rw [if_pos hkey, if_pos hkey, if_pos hkey]
    rfl
  · rw [if_neg hkey, if_neg hkey, if_neg hkey]

theorem rangeOf_edit (h : Bounding Inclusive conditions) (key key' : Key) {op : Operator}
    (hop : Inclusive op) (value : Option Double) :
    rangeOf (edit conditions key op value) key'
      = if key' = key then ((rangeOf conditions key).withEnd op value).cleared
        else rangeOf conditions key' := by
  have hreplaced := h.replaceBound key hop value
  have hends : rangeOf (replaceBound conditions key op value) key
      = (rangeOf conditions key).withEnd op value := by
    rw [rangeOf_replaceBound h key key hop, if_pos rfl]
  rw [edit, hends, Bounds.cleared]
  by_cases hdegenerate : ((rangeOf conditions key).withEnd op value).isDegenerate
  · rw [if_pos hdegenerate, if_pos hdegenerate, rangeOf_withoutBounds hreplaced,
      rangeOf_replaceBound h key key' hop]
    by_cases hkey : key' = key
    · rw [if_pos hkey, if_pos hkey]
    · rw [if_neg hkey, if_neg hkey, if_neg hkey]
  · rw [if_neg hdegenerate, if_neg hdegenerate, rangeOf_replaceBound h key key' hop]

/-! ## Setting both ends -/

/-- A range that is set is read back, unless its lower end meets the old upper end; then only its
upper end is read back. -/
theorem rangeOf_edit_edit (h : Bounding Inclusive conditions) (key : Key) {low high : Double}
    (hwide : Double.numEq low high = false) :
    rangeOf (edit (edit conditions key .ge (some low)) key .le (some high)) key
      = if (rangeOf conditions key).high.any (Double.numEq low) then ⟨none, some high⟩
        else ⟨some low, some high⟩ := by
  have hfirst := h.edit key (.inl rfl : Inclusive .ge) (some low)
  rw [rangeOf_edit hfirst key key (.inr rfl), if_pos rfl, rangeOf_edit h key key (.inl rfl),
    if_pos rfl]
  have hdegenerate : ((rangeOf conditions key).withEnd .ge (some low)).isDegenerate
      = (rangeOf conditions key).high.any (Double.numEq low) := by
    cases hold : (rangeOf conditions key).high with
    | none => simp [Bounds.withEnd, Bounds.isDegenerate, hold]
    | some old => simp [Bounds.withEnd, Bounds.isDegenerate, hold]
  rw [Bounds.cleared, Bounds.cleared, hdegenerate]
  by_cases hmeets : (rangeOf conditions key).high.any (Double.numEq low)
  · -- the lower end went with the old range
    rw [if_pos hmeets, if_pos hmeets]
    rfl
  · rw [if_neg hmeets, if_neg hmeets]
    simp [Bounds.withEnd, Bounds.isDegenerate, hwide]

/-- **Setting a range and reading it back.** After any edits with the operators `≥` and `≤`, a range
with two different ends is read back as it was set exactly if its lower end is not the old upper
end. Where it is, the lower end is lost. The ends need not be finite. -/
theorem bounds_setBounds_edited_eq_iff {start : Filter}
    (hstart : start = everything ∨ start = nothing) {edits : List Edit}
    (huses : ∀ e ∈ edits, e.Uses Inclusive) (key : Key) {low high : Double}
    (hwide : Double.numEq low high = false) :
    (bounds (setBounds (edited start edits) key ⟨some low, some high⟩) key
          = ⟨some low, some high⟩
        ↔ ∀ old, (bounds (edited start edits) key).high = some old →
            Double.numEq low old = false) ∧
      ∀ old, (bounds (edited start edits) key).high = some old → Double.numEq low old = true →
        bounds (setBounds (edited start edits) key ⟨some low, some high⟩) key
          = ⟨none, some high⟩ := by
  have hasks : AsksFor start [] := by
    obtain rfl | rfl := hstart
    · exact asksFor_everything
    · exact asksFor_nothing
  obtain ⟨conditions, hconditions, hbounding⟩ :=
    exists_asksFor_edited hasks (Bounding.nil Inclusive) huses
  rw [hconditions.setBounds, hconditions.bounds, bounds_ofConditions,
    rangeOf_edit_edit hbounding key hwide]
  cases hold : (rangeOf conditions key).high with
  | none => simp
  | some old =>
    cases hmeets : Double.numEq low old with
    | true => simp [hmeets]
    | false => simp [hmeets]

/-- A range is set over one that it overlaps, with its lower end between the old ones. -/
theorem bounds_setBounds_edited_of_overlap :
    let key : Key := ⟨.config, "lr"⟩
    let edits := [Edit.range key ⟨some Double.zero, some (Double.ofNat 2)⟩]
    (∀ e ∈ edits, e.Uses Inclusive) ∧
      Double.numEq (Double.ofNat 1) (Double.ofNat 3) = false ∧
      bounds (setBounds (edited everything edits) key
        ⟨some (Double.ofNat 1), some (Double.ofNat 3)⟩) key
        = ⟨some (Double.ofNat 1), some (Double.ofNat 3)⟩ := by
  intro key edits
  have huses : ∀ e ∈ edits, e.Uses Inclusive := by
    simp [edits, Edit.Uses, Inclusive]
  have hold : (bounds (edited everything edits) key).high = some (Double.ofNat 2) := by decide
  refine ⟨huses, by decide,
    (bounds_setBounds_edited_eq_iff (.inl rfl) huses key (by decide)).1.mpr fun old h ↦ ?_⟩
  rw [hold] at h
  obtain rfl := Option.some.inj h
  decide

/-- Are the numbers of the change finite? -/
def Edit.IsFinite : Edit → Prop
  | .bound _ _ value => ∀ x ∈ value, x.isFinite = true
  | .range _ ends => (∀ x ∈ ends.low, x.isFinite = true) ∧ ∀ x ∈ ends.high, x.isFinite = true

/-- **A range is not read back** where it is set to the right of the one before and touches it: of
`[1, 2]`, set over `[0, 1]`, only the upper end is left. -/
theorem bounds_setBounds_ne_of_adjacent :
    ¬ ∀ (start : Filter) (edits : List Edit) (key : Key) (low high : Double),
      (start = everything ∨ start = nothing) →
      (∀ e ∈ edits, e.Uses Inclusive ∧ e.IsFinite) →
      low.isFinite = true → high.isFinite = true → Double.numEq low high = false →
      bounds (setBounds (edited start edits) key ⟨some low, some high⟩) key
        = ⟨some low, some high⟩ := by
  intro h
  let key : Key := ⟨.config, "lr"⟩
  have hread := h everything [.range key ⟨some Double.zero, some (Double.ofNat 1)⟩] key
    (Double.ofNat 1) (Double.ofNat 2) (.inl rfl)
    (by simp [Edit.Uses, Inclusive, Edit.IsFinite, Double.zero, Double.ofNat]; decide)
    (by decide) (by decide) (by decide)
  exact absurd hread (by decide)

end Selection

end RunQuery

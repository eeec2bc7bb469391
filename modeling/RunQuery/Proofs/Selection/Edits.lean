import RunQuery.Proofs.Selection.Canonical

/-!
# Sequences of edits

Whatever bounds are set on a selection one after another, it stays in canonical form: a step lemma
for each kind of edit, and the induction along the sequence.
-/

namespace RunQuery.Selection

/-- A change of a selection. -/
inductive Edit where
  /-- The bound of a key with an operator is set or removed. -/
  | bound (key : Key) (op : Operator) (value : Option Double)
  /-- Both ends of the range of a key are set or removed. -/
  | range (key : Key) (ends : Bounds)

/-- The selection after a change. -/
def Edit.apply (selection : Filter) : Edit → Filter
  | .bound key op value => addBound selection key op value
  | .range key ends => setBounds selection key ends

/-- The selection after a sequence of changes. -/
def edited (selection : Filter) (edits : List Edit) : Filter := edits.foldl Edit.apply selection

@[simp] theorem edited_nil (selection : Filter) : edited selection [] = selection := rfl

@[simp] theorem edited_cons (selection : Filter) (e : Edit) (edits : List Edit) :
    edited selection (e :: edits) = edited (e.apply selection) edits := rfl

/-- Does the change use certain operators only? -/
def Edit.Uses (allowed : Operator → Prop) : Edit → Prop
  | .bound _ op _ => allowed op
  | .range _ _ => allowed .ge ∧ allowed .le

/-- The selection asks for these conditions, or selects no run and has not been edited yet. -/
def AsksFor (selection : Filter) (conditions : List Condition) : Prop :=
  selection = ofConditions conditions ∨ selection = nothing ∧ conditions = []

variable {allowed : Operator → Prop} {selection : Filter} {conditions : List Condition}

theorem AsksFor.addBound (h : AsksFor selection conditions) (key : Key) (op : Operator)
    (value : Option Double) :
    addBound selection key op value = ofConditions (edit conditions key op value) := by
  obtain rfl | ⟨rfl, rfl⟩ := h
  · exact addBound_ofConditions conditions key op value
  · exact addBound_nothing key op value

theorem AsksFor.setBounds (h : AsksFor selection conditions) (key : Key) (ends : Bounds) :
    setBounds selection key ends
      = ofConditions (edit (edit conditions key .ge ends.low) key .le ends.high) := by
  rw [Selection.setBounds, h.addBound, addBound_ofConditions]

theorem AsksFor.bounds (h : AsksFor selection conditions) (key : Key) :
    bounds selection key = rangeOf conditions key := by
  obtain rfl | ⟨rfl, rfl⟩ := h
  · exact bounds_ofConditions conditions key
  · rfl

section

variable {P : List Condition → Prop}
  (hedit : ∀ {conditions : List Condition}, P conditions →
    ∀ (key : Key) {op : Operator}, allowed op → ∀ value, P (edit conditions key op value))

include hedit

/-- After a change a selection is in canonical form, and what setting a bound preserves still holds
of its conditions. -/
theorem exists_ofConditions_apply (h : AsksFor selection conditions) (hP : P conditions) {e : Edit}
    (huses : e.Uses allowed) : ∃ changed, e.apply selection = ofConditions changed ∧ P changed := by
  cases e with
  | bound key op value => exact ⟨_, h.addBound key op value, hedit hP key huses value⟩
  | range key ends =>
    exact ⟨_, h.setBounds key ends, hedit (hedit hP key huses.1 ends.low) key huses.2 ends.high⟩

/-- What setting a bound preserves is preserved by any sequence of changes. -/
theorem exists_ofConditions_edited (hP : P conditions) {edits : List Edit}
    (huses : ∀ e ∈ edits, e.Uses allowed) :
    ∃ changed, edited (ofConditions conditions) edits = ofConditions changed ∧ P changed := by
  induction edits generalizing conditions with
  | nil => exact ⟨conditions, rfl, hP⟩
  | cons e edits ih =>
    obtain ⟨hfirst, hrest⟩ := List.forall_mem_cons.mp huses
    obtain ⟨changed, hchanged, hP'⟩ := exists_ofConditions_apply hedit (.inl rfl) hP hfirst
    rw [edited_cons, hchanged]
    exact ih hP' hrest

end

theorem exists_asksFor_apply (h : AsksFor selection conditions)
    (hbounding : Bounding allowed conditions) {e : Edit} (huses : e.Uses allowed) :
    ∃ changed, AsksFor (e.apply selection) changed ∧ Bounding allowed changed := by
  obtain ⟨changed, hchanged, hbounding'⟩ :=
    exists_ofConditions_apply Bounding.edit h hbounding huses
  exact ⟨changed, .inl hchanged, hbounding'⟩

theorem exists_asksFor_edited (h : AsksFor selection conditions)
    (hbounding : Bounding allowed conditions) {edits : List Edit}
    (huses : ∀ e ∈ edits, e.Uses allowed) :
    ∃ changed, AsksFor (edited selection edits) changed ∧ Bounding allowed changed := by
  induction edits generalizing selection conditions with
  | nil => exact ⟨conditions, h, hbounding⟩
  | cons e edits ih =>
    obtain ⟨hfirst, hrest⟩ := List.forall_mem_cons.mp huses
    obtain ⟨changed, hchanged, hbounding'⟩ := exists_asksFor_apply h hbounding hfirst
    exact ih hchanged hbounding' hrest

theorem asksFor_everything : AsksFor everything [] := .inl everything_eq

theorem asksFor_nothing : AsksFor nothing [] := .inr ⟨rfl, rfl⟩

end RunQuery.Selection

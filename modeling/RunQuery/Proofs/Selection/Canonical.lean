import Mathlib.Data.List.Induction
import Mathlib.Data.List.Nodup
import RunQuery.Selection

/-!
# Selections in canonical form

A selection that has been built up by setting bounds is a list of conditions and no more, and
setting a bound edits that list. So a selection is followed as a list: `edit` is the change that a
bound makes, and `rangeOf` is the range of a key.

## What the list looks like

Every condition compares a key with a number, and no key and operator occur twice. The range of a
key can then be read off without the fold over the whole list: if only the operators `≥` and `≤` are
in use, each of its ends is the number of the one condition that sets it.
-/

namespace RunQuery.Selection

/-- The selection in canonical form that asks for some conditions. -/
def ofConditions (conditions : List Condition) : Filter :=
  Filter.any [Filter.all (conditions.map Filter.leaf)]

def isBound (key : Key) (op : Operator) (c : Condition) : Bool := c.key == key && c.op == op

/-- The range that conditions leave to a key. -/
def rangeOf (conditions : List Condition) (key : Key) : Bounds :=
  conditions.foldl (fun b c ↦ if c.key = key then b.tighten c.op c.literal else b) Bounds.unbounded

/-- Conditions with another bound of the key with the operator, or without one. -/
def replaceBound (conditions : List Condition) (key : Key) (op : Operator)
    (value : Option Double) : List Condition :=
  (conditions.filter fun c ↦ !isBound key op c) ++
    (value.map fun x ↦ (⟨key, op, .number x⟩ : Condition)).toList

def withoutBounds (conditions : List Condition) (key : Key) : List Condition :=
  conditions.filter fun c ↦ !(c.key == key && c.op.isOrdering)

/-- The change that setting a bound makes. -/
def edit (conditions : List Condition) (key : Key) (op : Operator) (value : Option Double) :
    List Condition :=
  if (rangeOf (replaceBound conditions key op value) key).isDegenerate then
    withoutBounds (replaceBound conditions key op value) key
  else replaceBound conditions key op value

/-! ## The list behind a selection -/

@[simp] theorem leavesList_map_leaf (conditions : List Condition) :
    Filter.leavesList (conditions.map Filter.leaf) = conditions := by
  induction conditions with
  | nil => rfl
  | cons c conditions ih => rw [List.map_cons, Filter.leavesList, ih]; rfl

@[simp] theorem bounds_all_map_leaf (conditions : List Condition) (key : Key) :
    bounds (Filter.all (conditions.map Filter.leaf)) key = rangeOf conditions key := by
  rw [bounds, Filter.leaves, leavesList_map_leaf, rangeOf]

@[simp] theorem bounds_ofConditions (conditions : List Condition) (key : Key) :
    bounds (ofConditions conditions) key = rangeOf conditions key := by
  rw [← bounds_all_map_leaf]
  simp [bounds, ofConditions, Filter.leaves]

theorem filter_map_leaf (key : Key) (kind : Operator → Bool) (conditions : List Condition) :
    (conditions.map Filter.leaf).filter (fun node ↦ !isBoundOn key kind node)
      = (conditions.filter fun c ↦ !(c.key == key && kind c.op)).map Filter.leaf := by
  rw [List.filter_map]
  rfl

/-- Setting a bound in canonical form edits the list of conditions. -/
@[simp] theorem addBound_ofConditions (conditions : List Condition) (key : Key) (op : Operator)
    (value : Option Double) :
    addBound (ofConditions conditions) key op value
      = ofConditions (edit conditions key op value) := by
  have hkept : ((conditions.map Filter.leaf).filter fun node ↦ !isBoundOn key (· == op) node)
      ++ (value.map fun x ↦ Filter.compare key op (.number x)).toList
      = (replaceBound conditions key op value).map Filter.leaf := by
    rw [filter_map_leaf, replaceBound, List.map_append]
    cases value with
    | none => rfl
    | some x => rfl
  rw [addBound, ofConditions, split]
  dsimp only
  rw [hkept, bounds_all_map_leaf, filter_map_leaf, edit]
  by_cases hdegenerate : (rangeOf (replaceBound conditions key op value) key).isDegenerate
  · rw [if_pos hdegenerate, if_pos hdegenerate]
    rfl
  · rw [if_neg hdegenerate, if_neg hdegenerate]
    rfl

theorem everything_eq : everything = ofConditions [] := rfl

/-- Setting a bound turns the selection of no run into one of all runs first. -/
@[simp] theorem addBound_nothing (key : Key) (op : Operator) (value : Option Double) :
    addBound nothing key op value = ofConditions (edit [] key op value) := by
  rw [← addBound_ofConditions]
  rfl

/-! ## Bounds as numbers -/

/-- Conditions on numbers with certain operators, none of them with the key and operator of
another. -/
structure Bounding (allowed : Operator → Prop) (conditions : List Condition) : Prop where
  /-- Every literal is a number. -/
  number : ∀ c ∈ conditions, ∃ x, c.literal = .number x
  /-- Every operator is one of those allowed. -/
  operator : ∀ c ∈ conditions, allowed c.op
  /-- No key and operator occur twice. -/
  distinct : (conditions.map fun c ↦ (c.key, c.op)).Nodup

/-- The number that the key is compared with by the operator, if it is. -/
def boundOf? (conditions : List Condition) (key : Key) (op : Operator) : Option Double :=
  (conditions.filter (isBound key op)).findSome? fun c ↦ c.literal.number?

variable {allowed : Operator → Prop} {conditions : List Condition}

theorem isBound_iff {key : Key} {op : Operator} {c : Condition} :
    isBound key op c = true ↔ (c.key, c.op) = (key, op) := by
  simp [isBound]

namespace Bounding

theorem nil (allowed : Operator → Prop) : Bounding allowed [] :=
  ⟨by simp, by simp, List.nodup_nil⟩

theorem filter (h : Bounding allowed conditions) (keep : Condition → Bool) :
    Bounding allowed (conditions.filter keep) where
  number c hc := h.number c (List.mem_of_mem_filter hc)
  operator c hc := h.operator c (List.mem_of_mem_filter hc)
  distinct := h.distinct.sublist (List.filter_sublist.map _)

theorem replaceBound (h : Bounding allowed conditions) (key : Key) {op : Operator}
    (hop : allowed op) (value : Option Double) :
    Bounding allowed (replaceBound conditions key op value) := by
  have hkept := h.filter fun c ↦ !isBound key op c
  cases value with
  | none => simpa [Selection.replaceBound] using hkept
  | some x =>
    refine ⟨fun c hc ↦ ?_, fun c hc ↦ ?_, ?_⟩
    · rcases List.mem_append.mp hc with hc | hc
      · exact hkept.number c hc
      · exact ⟨x, by simp_all⟩
    · rcases List.mem_append.mp hc with hc | hc
      · exact hkept.operator c hc
      · simp_all
    · rw [Selection.replaceBound, List.map_append, List.nodup_append]
      refine ⟨hkept.distinct, by simp, ?_⟩
      rintro _ hother _ hnew rfl
      obtain ⟨c, hc, hsame⟩ := List.mem_map.mp hother
      have hbound : isBound key op c = true := isBound_iff.mpr (by simpa [hsame] using hnew)
      simpa [hbound] using List.of_mem_filter hc

theorem edit (h : Bounding allowed conditions) (key : Key) {op : Operator} (hop : allowed op)
    (value : Option Double) : Bounding allowed (edit conditions key op value) := by
  rw [Selection.edit]
  by_cases hdegenerate :
      (rangeOf (Selection.replaceBound conditions key op value) key).isDegenerate
  · rw [if_pos hdegenerate]
    exact (h.replaceBound key hop value).filter _
  · rw [if_neg hdegenerate]
    exact h.replaceBound key hop value

end Bounding

/-! ## Look-ups -/

@[simp] theorem boundOf?_append (conditions others : List Condition) (key : Key) (op : Operator) :
    boundOf? (conditions ++ others) key op
      = (boundOf? conditions key op).or (boundOf? others key op) := by
  rw [boundOf?, List.filter_append, List.findSome?_append, ← boundOf?, ← boundOf?]

@[simp] theorem boundOf?_singleton (key key' : Key) (op op' : Operator) (x : Double) :
    boundOf? [⟨key', op', .number x⟩] key op = if key' = key ∧ op' = op then some x else none := by
  by_cases h : key' = key ∧ op' = op
  · rw [if_pos h]
    simp [boundOf?, isBound, h, Tree.number?]
  · rw [if_neg h]
    simp [boundOf?, isBound, h]

theorem boundOf?_eq_none {key : Key} {op : Operator}
    (h : (key, op) ∉ conditions.map fun c ↦ (c.key, c.op)) :
    boundOf? conditions key op = none := by
  have hnone : conditions.filter (isBound key op) = [] :=
    List.filter_eq_nil_iff.mpr fun c hc hbound ↦
      h (isBound_iff.mp hbound ▸ List.mem_map_of_mem (f := fun c ↦ (c.key, c.op)) hc)
  rw [boundOf?, hnone]
  rfl

theorem boundOf?_filter_of_keeps {key : Key} {op : Operator} {keep : Condition → Bool}
    (h : ∀ c, isBound key op c = true → keep c = true) :
    boundOf? (conditions.filter keep) key op = boundOf? conditions key op := by
  have hsame : (conditions.filter keep).filter (isBound key op)
      = conditions.filter (isBound key op) := by
    rw [List.filter_filter]
    refine List.filter_congr fun c _ ↦ ?_
    cases hbound : isBound key op c with
    | false => rw [Bool.false_and]
    | true => rw [h c hbound, Bool.and_true]
  rw [boundOf?, hsame, ← boundOf?]

theorem boundOf?_filter_of_drops {key : Key} {op : Operator} {keep : Condition → Bool}
    (h : ∀ c, isBound key op c = true → keep c = false) :
    boundOf? (conditions.filter keep) key op = none := by
  refine boundOf?_eq_none fun hmem ↦ ?_
  obtain ⟨c, hc, hsame⟩ := List.mem_map.mp hmem
  have hkeep := (List.mem_filter.mp hc).2
  rw [h c (isBound_iff.mpr hsame)] at hkeep
  contradiction

/-- The bound that was set is found, and no other look-up changes. -/
@[simp] theorem boundOf?_replaceBound (conditions : List Condition) (key key' : Key)
    (op op' : Operator) (value : Option Double) :
    boundOf? (replaceBound conditions key op value) key' op'
      = if key' = key ∧ op' = op then value else boundOf? conditions key' op' := by
  rw [replaceBound, boundOf?_append]
  by_cases h : key' = key ∧ op' = op
  · obtain ⟨rfl, rfl⟩ := h
    rw [boundOf?_filter_of_drops (fun c hc ↦ by rw [hc]; rfl), Option.none_or, if_pos ⟨rfl, rfl⟩]
    cases value with
    | none => rfl
    | some x => simp
  · have hkeeps : ∀ c, isBound key' op' c = true → (!isBound key op c) = true := by
      intro c hc
      rw [Bool.not_eq_true', Bool.eq_false_iff, ne_eq, isBound_iff, isBound_iff.mp hc,
        Prod.mk.injEq]
      exact h
    have hnew : boundOf? (value.map fun x ↦ (⟨key, op, .number x⟩ : Condition)).toList key' op'
        = none := by
      cases value with
      | none => rfl
      | some x => simpa [eq_comm] using h
    rw [boundOf?_filter_of_keeps hkeeps, hnew, Option.or_none, if_neg h]

theorem boundOf?_withoutBounds (conditions : List Condition) (key key' : Key) {op : Operator}
    (hop : op.isOrdering = true) :
    boundOf? (withoutBounds conditions key) key' op
      = if key' = key then none else boundOf? conditions key' op := by
  rw [withoutBounds]
  by_cases h : key' = key
  · rw [if_pos h, boundOf?_filter_of_drops]
    intro c hc
    obtain ⟨hkey, hcop⟩ := Prod.mk.inj (isBound_iff.mp hc)
    simp [hkey, hcop, hop, h]
  · rw [if_neg h, boundOf?_filter_of_keeps]
    intro c hc
    obtain ⟨hkey, -⟩ := Prod.mk.inj (isBound_iff.mp hc)
    simp [hkey, h]

end RunQuery.Selection

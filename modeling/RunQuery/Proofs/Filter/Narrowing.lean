import Mathlib.Data.List.Forall2
import RunQuery.CommandLine.Program
import RunQuery.Proofs.Filter.Compiled

/-!
# Filters narrowed by conditions

Conditions that are added to a filter one after another narrow it: a run passes the result if it
passes the filter and each condition. So their order does not matter to the runs, and no condition
is lost on the way.

A condition joins the conjunction of a filter, if there is one, or else the filter and the condition
become a new conjunction. Where that happens depends on the shape of the filter, and each condition
changes the shape that the next one meets: a filter of several alternatives is wrapped by the first,
and the second joins the wrapper. What carries the induction is that one step, whatever the shape,
adds exactly the condition to what a run has to pass, and to the end of the list of conditions.
-/

namespace RunQuery

namespace Filter

variable (language : PatternLanguage) (run : Run)

/-! ## One condition -/

/-- What becomes of a filter that is narrowed: its root grows, or the one group within an `OR` at
the root, or it becomes part of a new group. -/
theorem narrow_cases (filter node : Filter) :
    (∃ filters, filter = all filters ∧ filter.narrow node = all (filters ++ [node])) ∨
    (∃ filters, filter = any [all filters] ∧
      filter.narrow node = any [all (filters ++ [node])]) ∨
    filter.narrow node = all [filter, node] := by
  rw [narrow]
  fun_cases conjunctionPath? filter with
  | case1 filters => exact .inl ⟨filters, rfl, rfl⟩
  | case2 filters => exact .inr (.inl ⟨filters, rfl, rfl⟩)
  | case3 => exact .inr (.inr rfl)

/-- **A condition narrows a filter**, wherever it joins it. -/
@[simp] theorem passes_narrow (filter node : Filter) :
    (filter.narrow node).passes language run
      = (filter.passes language run && node.passes language run) := by
  rcases narrow_cases filter node with ⟨filters, rfl, h⟩ | ⟨filters, rfl, h⟩ | h
  · simp [h]
  · simp [h]
  · simp [h]

@[simp] theorem leaves_narrow (filter node : Filter) :
    (filter.narrow node).leaves = filter.leaves ++ node.leaves := by
  rcases narrow_cases filter node with ⟨filters, rfl, h⟩ | ⟨filters, rfl, h⟩ | h
  · simp [h]
  · simp [h]
  · simp [h]

/-! ## One condition after another -/

/-- The filter narrowed by one condition after another. -/
def narrowAll (filter : Filter) (conditions : List Condition) : Filter :=
  conditions.foldl (fun narrowed c ↦ narrowed.narrow (.leaf c)) filter

@[simp] theorem narrowAll_nil (filter : Filter) : filter.narrowAll [] = filter := rfl

@[simp] theorem narrowAll_cons (filter : Filter) (c : Condition) (conditions : List Condition) :
    filter.narrowAll (c :: conditions) = (filter.narrow (.leaf c)).narrowAll conditions :=
  rfl

@[simp] theorem passes_narrowAll (filter : Filter) (conditions : List Condition) :
    (filter.narrowAll conditions).passes language run
      = (filter.passes language run && conditions.all (·.holds language run)) := by
  -- the filter has to be general: the first condition changes it for the others
  induction conditions generalizing filter with
  | nil => simp
  | cons c conditions ih => simp [ih, Bool.and_assoc]

@[simp] theorem leaves_narrowAll (filter : Filter) (conditions : List Condition) :
    (filter.narrowAll conditions).leaves = filter.leaves ++ conditions := by
  induction conditions generalizing filter with
  | nil => simp
  | cons c conditions ih => simp [ih]

@[simp] theorem size_narrowAll (filter : Filter) (conditions : List Condition) :
    (filter.narrowAll conditions).size = filter.size + conditions.length := by
  rw [← length_leaves, leaves_narrowAll, List.length_append, length_leaves]

end Filter

theorem CommandLine.narrowBy_eq_ok_iff {query narrowed : Query} {texts : List String} :
    narrowBy query texts = .ok narrowed ↔
      ∃ conditions, List.Forall₂ (fun text c ↦ Condition.parse text = .ok c) texts conditions ∧
        narrowed = { query with filters := query.filters.narrowAll conditions } := by
  induction texts generalizing query with
  | nil =>
    simp only [narrowBy, List.forall₂_nil_left_iff, exists_eq_left, Except.ok.injEq]
    exact eq_comm
  | cons text texts ih =>
    cases hparse : Condition.parse text with
    | error e =>
      simp only [narrowBy, hparse]
      refine iff_of_false nofun ?_
      rintro ⟨_, ⟨⟩ | ⟨hc, -⟩, -⟩
      rw [hparse] at hc
      cases hc
    | ok c =>
      simp only [narrowBy, hparse, ih]
      constructor
      · rintro ⟨conditions, hconditions, rfl⟩
        exact ⟨c :: conditions, .cons hparse hconditions, rfl⟩
      · rintro ⟨_, ⟨⟩ | ⟨hc, hconditions⟩, rfl⟩
        obtain rfl := Except.ok.inj (hparse.symm.trans hc)
        exact ⟨_, hconditions, rfl⟩

namespace Filter

/-- **Conditions narrow a filter together.** A run passes a filter to which conditions were added
one after another exactly if it passes the filter and all conditions, so that any order of them
gives a filter with the same runs. The conditions of the result are those of the filter and then the
new ones, so their number grows by that of these. A query on the command line is narrowed in this
way by texts that are conditions. -/
theorem passes_compile_narrowAll_iff (language : PatternLanguage) (filter : Filter)
    (conditions : List Condition) :
    (∀ run, (CompiledFilter.compile language (filter.narrowAll conditions)).passes run = true ↔
      (CompiledFilter.compile language filter).passes run = true ∧
        ∀ c ∈ conditions, (CompiledFilter.compile language (.leaf c)).passes run = true) ∧
    (∀ others, conditions.Perm others → ∀ run,
      (CompiledFilter.compile language (filter.narrowAll others)).passes run
        = (CompiledFilter.compile language (filter.narrowAll conditions)).passes run) ∧
    (filter.narrowAll conditions).leaves = filter.leaves ++ conditions ∧
    (filter.narrowAll conditions).size = filter.size + conditions.length ∧
    ∀ (query : Query) (texts : List String),
      List.Forall₂ (fun text c ↦ Condition.parse text = .ok c) texts conditions →
        CommandLine.narrowBy { query with filters := filter } texts
          = .ok { query with filters := filter.narrowAll conditions } := by
  refine ⟨?_, ?_, leaves_narrowAll filter conditions, size_narrowAll filter conditions, ?_⟩
  · intro run
    simp
  · intro others hperm run
    simp [hperm.all_eq]
  · intro query texts htexts
    exact CommandLine.narrowBy_eq_ok_iff.mpr ⟨conditions, htexts, rfl⟩

/-- The filter has an empty alternative, which every run passes, and one that is no filter. The
first condition wraps them, and the second joins the wrapper. -/
theorem narrowBy_of_alternatives :
    let filter := any [all [], invalid .null]
    let first : Condition := ⟨⟨.tags, "a"⟩, .eq, .bool true⟩
    let second : Condition := ⟨⟨.run, "name"⟩, .pattern, .string "b"⟩
    let texts := ["tags:a = true", "name=~b"]
    List.Forall₂ (fun text c ↦ Condition.parse text = .ok c) texts [first, second] ∧
      [first, second].Perm [second, first] ∧
      CommandLine.narrowBy { (default : Query) with filters := filter } texts
        = .ok { (default : Query) with filters := all [filter, .leaf first, .leaf second] } ∧
      ∀ run, (CompiledFilter.compile Pattern.test? (all [filter, .leaf second, .leaf first])).passes
          run = true ↔
        (CompiledFilter.compile Pattern.test? filter).passes run = true ∧
          (CompiledFilter.compile Pattern.test? (.leaf first)).passes run = true ∧
          (CompiledFilter.compile Pattern.test? (.leaf second)).passes run = true := by
  intro filter first second texts
  have htexts : List.Forall₂ (fun text c ↦ Condition.parse text = .ok c) texts [first, second] :=
    .cons rfl (.cons rfl .nil)
  have hperm : [first, second].Perm [second, first] := .swap second first []
  obtain ⟨hboth, hany, -, -, hquery⟩ :=
    passes_compile_narrowAll_iff Pattern.test? filter [first, second]
  refine ⟨htexts, hperm, hquery default texts htexts, fun run ↦ ?_⟩
  have hiff := hboth run
  rw [← hany [second, first] hperm run, List.forall_mem_cons, List.forall_mem_singleton] at hiff
  exact hiff

end Filter

end RunQuery

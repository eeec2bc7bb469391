import RunQuery.Filter.Compiled

/-!
# Compiled filters mean what the tree means

A run passes the compiled form of a filter exactly if it passes the filter. So what is said of the
selected runs can be read off the tree, where a group asks for all or for one of its children and a
leaf for its condition.
-/

namespace RunQuery

namespace CompiledFilter

variable (language : PatternLanguage) (run : Run)

theorem passes_compile_leaf (c : Condition) :
    (compile language (.leaf c)).passes run = c.holds language run := by
  rw [compile, ofCondition, Condition.holds]
  cases hknown : c.key.inSection.isKnown with
  | false => rfl
  | true =>
    simp only [Bool.not_true, Bool.false_eq_true, if_false]
    by_cases hpattern : c.op = .pattern
    · simp only [hpattern, if_true, Condition.test?]
      cases hnull : c.literal.isNull with
      | true => rfl
      | false =>
        simp only [Bool.false_eq_true, if_false]
        cases language (Value.display c.literal) with
        | none => rfl
        | some test => rfl
    · simp only [hpattern, if_false]
      rfl

mutual

/-- A compiled filter is passed by the runs that pass the filter. -/
@[simp] theorem passes_compile (filter : Filter) :
    (compile language filter).passes run = filter.passes language run := by
  cases filter with
  | group op filters =>
    cases op with
    | and => exact passesAll_compileList filters
    | or => exact passesAny_compileList filters
  | leaf c => exact passes_compile_leaf language run c
  | invalid data => rfl

@[simp] theorem passesAll_compileList (filters : List Filter) :
    passesAll run (compileList language filters) = Filter.passesAll language run filters := by
  cases filters with
  | nil => rfl
  | cons filter filters =>
    rw [compileList, passesAll, Filter.passesAll, passes_compile filter,
      passesAll_compileList filters]

@[simp] theorem passesAny_compileList (filters : List Filter) :
    passesAny run (compileList language filters) = Filter.passesAny language run filters := by
  cases filters with
  | nil => rfl
  | cons filter filters =>
    rw [compileList, passesAny, Filter.passesAny, passes_compile filter,
      passesAny_compileList filters]

end

end CompiledFilter

namespace Filter

@[simp] theorem passesAll_eq_all (language : PatternLanguage) (run : Run) (filters : List Filter) :
    passesAll language run filters = filters.all fun filter ↦ filter.passes language run := by
  induction filters with
  | nil => rfl
  | cons filter filters ih => rw [passesAll, List.all_cons, ih]

@[simp] theorem passesAny_eq_any (language : PatternLanguage) (run : Run) (filters : List Filter) :
    passesAny language run filters = filters.any fun filter ↦ filter.passes language run := by
  induction filters with
  | nil => rfl
  | cons filter filters ih => rw [passesAny, List.any_cons, ih]

@[simp] theorem passes_all (language : PatternLanguage) (run : Run) (filters : List Filter) :
    (all filters).passes language run = filters.all fun filter ↦ filter.passes language run :=
  passesAll_eq_all language run filters

@[simp] theorem passes_any (language : PatternLanguage) (run : Run) (filters : List Filter) :
    (any filters).passes language run = filters.any fun filter ↦ filter.passes language run :=
  passesAny_eq_any language run filters

@[simp] theorem passes_leaf (language : PatternLanguage) (run : Run) (c : Condition) :
    (leaf c).passes language run = c.holds language run := rfl

theorem select_eq_filter (filter : Filter) (runs : List Run) :
    filter.select runs = runs.filter fun run ↦ filter.passes Pattern.test? run :=
  List.filter_congr fun run _ ↦ CompiledFilter.passes_compile Pattern.test? run filter

@[simp] theorem select_all_nil (runs : List Run) : (all []).select runs = runs := by
  simp [select_eq_filter]

/-- A filter to which others are added selects among what it selected. -/
theorem select_all_cons (filter : Filter) (filters : List Filter) (runs : List Run) :
    (all (filter :: filters)).select runs
      = (filter.select runs).filter fun run ↦ passesAll Pattern.test? run filters := by
  rw [select_eq_filter, select_eq_filter, List.filter_filter]
  refine List.filter_congr fun run _ ↦ ?_
  rw [passes, passesAll, Bool.and_comm]

theorem passes_compare (language : PatternLanguage) (run : Run) {key : Key} {op : Operator}
    (hop : op ≠ .pattern) (literal : Value) :
    (compare key op literal).passes language run
      = (key.inSection.isKnown && op.compares (run.value? key) literal) := by
  rw [passes, Condition.holds]
  cases hknown : key.inSection.isKnown with
  | false => rfl
  | true => simp [hop]

end Filter

end RunQuery

import RunQuery.Proofs.Filter.Compiled

/-!
# Defects of filters

The two compilers do the same work, and differ in what becomes of a node that cannot be made out.
The lenient one puts a node in its place that nothing passes. The strict one stops at the first such
node, and if there is none it ends with what the lenient one makes.

Not every node that nothing passes is a defect: a condition on a section that no run has, and the
search of a null pattern, are understood and merely fail. Whether a node is a defect is seen at the
node itself, so what the strict compiler says of a tree can be read off the list of its nodes.
-/

namespace RunQuery

open CompiledFilter (Defect)

/-- What is wrong with a condition: it searches for a text that is no pattern. -/
def Condition.defect? (language : PatternLanguage) (c : Condition) : Option Defect :=
  if c.key.inSection.isKnown ∧ c.op = .pattern ∧ ¬ c.literal.isNull ∧
      language (Value.display c.literal) = none then
    some (.pattern (Value.display c.literal))
  else none

namespace Filter

mutual

/-- The nodes of a filter as they are written: a node before what is below it, and that before the
next one beside it. -/
def nodes : Filter → List Filter
  | group op filters => group op filters :: nodesList filters
  | leaf c => [leaf c]
  | invalid data => [invalid data]

/-- The nodes of a list of filters. -/
def nodesList : List Filter → List Filter
  | [] => []
  | filter :: filters => nodes filter ++ nodesList filters

end

/-- What is wrong with a node, by itself. -/
def defect? (language : PatternLanguage) : Filter → Option Defect
  | group _ _ => none
  | leaf c => c.defect? language
  | invalid data => some (.shape data)

end Filter

namespace CompiledFilter

variable (language : PatternLanguage)

theorem ofCondition_eq (c : Condition) :
    ofCondition language c
      = (c.defect? language).elim (.ok (compile language (.leaf c))) .error := by
  rw [compile, ofCondition, Condition.defect?]
  cases hknown : c.key.inSection.isKnown with
  | false => rfl
  | true =>
    by_cases hpattern : c.op = .pattern
    · cases hnull : c.literal.isNull with
      | true => simp [hpattern]
      | false =>
        cases hread : language (Value.display c.literal) with
        | none => simp [hpattern]
        | some test => simp [hpattern]
    · simp [hpattern]

mutual

/-- The strict compiler stops at the first defect, and else makes what the lenient one makes. -/
theorem compileStrict_eq (filter : Filter) :
    compileStrict language filter
      = (filter.nodes.findSome? (Filter.defect? language)).elim (.ok (compile language filter))
          .error := by
  cases filter with
  | group op filters =>
    rw [compileStrict, compileStrictList_eq filters, Filter.nodes, List.findSome?_cons, compile]
    dsimp only [Filter.defect?]
    cases (Filter.nodesList filters).findSome? (Filter.defect? language) with
    | none => rfl
    | some defect => rfl
  | leaf c =>
    rw [compileStrict, ofCondition_eq, Filter.nodes, List.findSome?_singleton, Filter.defect?]
  | invalid data => rfl

theorem compileStrictList_eq (filters : List Filter) :
    compileStrictList language filters
      = ((Filter.nodesList filters).findSome? (Filter.defect? language)).elim
          (.ok (compileList language filters)) .error := by
  cases filters with
  | nil => rfl
  | cons filter filters =>
    rw [compileStrictList, compileStrict_eq filter, compileStrictList_eq filters, Filter.nodesList,
      List.findSome?_append, compileList]
    -- a defect of the first filter hides those of the others
    cases filter.nodes.findSome? (Filter.defect? language) with
    | some defect => rfl
    | none =>
      cases (Filter.nodesList filters).findSome? (Filter.defect? language) with
      | none => rfl
      | some defect => rfl

end

theorem compileStrict_eq_error_iff {filter : Filter} {defect : Defect} :
    compileStrict language filter = .error defect ↔
      ∃ before node after, filter.nodes = before ++ node :: after ∧
        node.defect? language = some defect ∧
        ∀ earlier ∈ before, earlier.defect? language = none := by
  rw [← List.findSome?_eq_some_iff, compileStrict_eq]
  cases filter.nodes.findSome? (Filter.defect? language) with
  | none => simp
  | some first => simp

theorem compileStrict_eq_ok_iff {filter : Filter} {compiled : CompiledFilter} :
    compileStrict language filter = .ok compiled ↔
      compiled = compile language filter ∧
        ∀ node ∈ filter.nodes, node.defect? language = none := by
  rw [← List.findSome?_eq_none_iff, compileStrict_eq]
  cases filter.nodes.findSome? (Filter.defect? language) with
  | none => simp [eq_comm]
  | some first => simp

/-- **What the two compilers make of a filter.** What the lenient one makes is passed by the runs
that pass the filter. The strict one fails exactly if a node of the filter is a defect, and then
names the first; if it does not fail, the same runs pass what it makes. -/
theorem passes_compile_and_compileStrict (filter : Filter) :
    (∀ run, (compile language filter).passes run = filter.passes language run) ∧
    ((∃ defect, compileStrict language filter = .error defect) ↔
      ∃ node ∈ filter.nodes, node.defect? language ≠ none) ∧
    (∀ defect, compileStrict language filter = .error defect ↔
      ∃ before node after, filter.nodes = before ++ node :: after ∧
        node.defect? language = some defect ∧
        ∀ earlier ∈ before, earlier.defect? language = none) ∧
    ∀ strict, compileStrict language filter = .ok strict →
      ∀ run, strict.passes run = (compile language filter).passes run := by
  refine ⟨fun run ↦ passes_compile language run filter, ?_,
    fun defect ↦ compileStrict_eq_error_iff language, ?_⟩
  · constructor
    · rintro ⟨defect, hdefect⟩
      obtain ⟨before, node, after, hnodes, hnode, -⟩ := (compileStrict_eq_error_iff _).mp hdefect
      refine ⟨node, by simp [hnodes], ?_⟩
      rw [hnode]
      exact Option.some_ne_none defect
    · rintro ⟨node, hmem, hnode⟩
      cases hstrict : compileStrict language filter with
      | error defect => exact ⟨defect, rfl⟩
      | ok compiled => exact absurd (((compileStrict_eq_ok_iff _).mp hstrict).2 node hmem) hnode
  · intro strict hstrict run
    rw [((compileStrict_eq_ok_iff language).mp hstrict).1]

end CompiledFilter

end RunQuery

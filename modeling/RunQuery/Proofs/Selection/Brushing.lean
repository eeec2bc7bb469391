import RunQuery.Proofs.Filter.Comparison
import RunQuery.Proofs.Filter.Compiled
import RunQuery.Proofs.Selection.Ranges

/-!
# What a brushed selection selects

A selection is read in two ways. The evaluation of filters asks each of its conditions of a run; the
chart shows the range of each key, which is folded from the bounds on it. Both say the same of every
run, since no bound has another of its kind beside it: an end of a range is then the number of one
condition, and the greater or the lesser of two numbers, which would pass over one that is no
number, is never taken.

Hence an end that is no number lets no run through, in either reading. The same holds of a bound in
a section that no run has: the condition fails, and the field that the range asks for is absent.
-/

namespace RunQuery

namespace Value

/-- Is the field there and not null, and is it or does it write a number that passes the test? -/
def IsNumberWith (test : Double → Bool) (field : Option Value) : Prop :=
  ∃ v n, field = some v ∧ v.isNull = false ∧ toNumber? v = some n ∧ test n = true

theorem isNumberWith_iff {test : Double → Bool} {field : Option Value} :
    IsNumberWith test field ↔ (field.bind toNumber?).any test = true := by
  rw [Option.any_eq_true]
  constructor
  · rintro ⟨v, n, rfl, -, hnumber, htest⟩
    exact ⟨n, hnumber, htest⟩
  · rintro ⟨n, hn, htest⟩
    obtain ⟨v, rfl, hnumber⟩ := Option.bind_eq_some_iff.mp hn
    exact ⟨v, n, rfl, isNull_eq_false_of_toNumber? hnumber, hnumber, htest⟩

end Value

/-- Is the field, for each end that the range has, a number on the inner side of it? -/
def Bounds.Admits (range : Bounds) (field : Option Value) : Prop :=
  (∀ low, range.low = some low → Value.IsNumberWith (Double.numLe low ·) field) ∧
    ∀ high, range.high = some high → Value.IsNumberWith (Double.numLe · high) field

/-! ## Orderings as conditions -/

theorem Operator.compares_number {op : Operator} (hop : op.isOrdering = true)
    (field : Option Value) (x : Double) :
    op.compares field (.number x) = (field.bind Value.toNumber?).any (op.orders · x) := by
  rw [compares_of_isOrdering _ _ hop]
  cases field with
  | none => rfl
  | some v =>
    rw [Option.getD_some, Option.bind_some]
    cases Value.toNumber? v <;> rfl

theorem Run.value?_eq_none {key : Key} (h : key.inSection.isKnown = false) (run : Run) :
    run.value? key = none := by
  obtain ⟨area, name⟩ := key
  cases area with
  | run | config | summary | tags => cases h
  | unknown => rfl

theorem Filter.passes_bound_iff (language : PatternLanguage) (run : Run) (key : Key)
    {op : Operator} (hop : op.isOrdering = true) (x : Double) :
    (Filter.compare key op (.number x)).passes language run = true
      ↔ Value.IsNumberWith (op.orders · x) (run.value? key) := by
  have hpattern : op ≠ .pattern := by
    rintro rfl
    cases hop
  rw [Filter.passes_compare language run hpattern, Operator.compares_number hop,
    Value.isNumberWith_iff]
  cases hknown : key.inSection.isKnown with
  | true => rw [Bool.true_and]
  | false => rw [Run.value?_eq_none hknown, Bool.false_and, Option.bind_none, Option.any_none]

namespace Selection

variable {conditions : List Condition}

/-! ## From the list of conditions to the ranges -/

theorem passes_ofConditions_iff (language : PatternLanguage) (run : Run) :
    (ofConditions conditions).passes language run = true
      ↔ ∀ c ∈ conditions, (Filter.leaf c).passes language run = true := by
  simp [ofConditions]

theorem mem_iff_boundOf?_eq_some {allowed : Operator → Prop} (h : Bounding allowed conditions)
    {key : Key} {op : Operator} {x : Double} :
    ⟨key, op, .number x⟩ ∈ conditions ↔ boundOf? conditions key op = some x := by
  constructor
  · intro hmem
    obtain ⟨before, after, rfl⟩ := List.append_of_mem hmem
    have hnew : (key, op) ∉ before.map fun c ↦ (c.key, c.op) := by
      have hdistinct := h.distinct
      rw [List.map_append, List.nodup_append] at hdistinct
      exact fun hbefore ↦ hdistinct.2.2 _ hbefore _ List.mem_cons_self rfl
    rw [boundOf?_append, boundOf?_eq_none hnew, Option.none_or,
      ← List.singleton_append, boundOf?_append, boundOf?_singleton, if_pos ⟨rfl, rfl⟩,
      Option.some_or]
  · intro hlook
    obtain ⟨c, hc, hliteral⟩ := List.exists_of_findSome?_eq_some hlook
    obtain ⟨hmem, hbound⟩ := List.mem_filter.mp hc
    obtain ⟨rfl, rfl⟩ := Prod.mk.inj (isBound_iff.mp hbound)
    obtain ⟨y, hy⟩ := h.number c hmem
    obtain rfl : y = x := by simpa [hy, Tree.number?] using hliteral
    rwa [← hy]

/-- Of a list of inclusive bounds, a run passes all just if it lies in the range of every key. -/
theorem passes_ofConditions_iff_admits (language : PatternLanguage)
    (h : Bounding Inclusive conditions) (run : Run) :
    (ofConditions conditions).passes language run = true
      ↔ ∀ key, (rangeOf conditions key).Admits (run.value? key) := by
  rw [passes_ofConditions_iff]
  constructor
  · intro hpasses key
    rw [rangeOf_eq h]
    refine ⟨fun low hlow ↦ ?_, fun high hhigh ↦ ?_⟩
    · have hmem := (mem_iff_boundOf?_eq_some h).mpr hlow
      exact (Filter.passes_bound_iff language run key rfl low).mp (hpasses _ hmem)
    · have hmem := (mem_iff_boundOf?_eq_some h).mpr hhigh
      exact (Filter.passes_bound_iff language run key rfl high).mp (hpasses _ hmem)
  · intro hadmits c hc
    obtain ⟨x, hx⟩ := h.number c hc
    have hop := h.operator c hc
    obtain ⟨key, op, literal⟩ := c
    dsimp only at hx hop
    subst hx
    have hlook := (mem_iff_boundOf?_eq_some h).mp hc
    have hrange := hadmits key
    rw [rangeOf_eq h] at hrange
    rcases hop with rfl | rfl
    · exact (Filter.passes_bound_iff language run key rfl x).mpr (hrange.1 x hlook)
    · exact (Filter.passes_bound_iff language run key rfl x).mpr (hrange.2 x hlook)

/-- **A brushed selection selects the runs in its ranges.** After any edits with the operators `≥`
and `≤`, whatever the numbers are, a run passes the compiled selection exactly if for every key that
has a range its field is a number in it. -/
theorem passes_compile_edited_iff (language : PatternLanguage) {edits : List Edit}
    (huses : ∀ e ∈ edits, e.Uses Inclusive) (run : Run) :
    (CompiledFilter.compile language (edited everything edits)).passes run = true
      ↔ ∀ key, (bounds (edited everything edits) key).Admits (run.value? key) := by
  obtain ⟨conditions, hconditions, hbounding⟩ :=
    exists_ofConditions_edited Bounding.edit (Bounding.nil Inclusive) huses
  rw [CompiledFilter.passes_compile, everything_eq, hconditions,
    passes_ofConditions_iff_admits language hbounding]
  simp only [bounds_ofConditions]

/-- A range is set, an end that is no number is set elsewhere and removed again, and the upper end
is moved: a text that writes a number in between passes, and a text that writes none does not. -/
theorem passes_compile_edited_of_text :
    let name : Key := ⟨.run, "name"⟩
    let rate : Key := ⟨.config, "lr"⟩
    let edits := [Edit.range name ⟨some Double.zero, some (Double.ofNat 1)⟩,
      .bound rate .ge (some .nan), .bound rate .ge none, .bound name .le (some (Double.ofNat 2))]
    let selection := CompiledFilter.compile Pattern.test? (edited everything edits)
    let run (name : String) : Run := { (default : Run) with name }
    (∀ e ∈ edits, e.Uses Inclusive) ∧
      bounds (edited everything edits) name = ⟨some Double.zero, some (Double.ofNat 2)⟩ ∧
      selection.passes (run " 1.5 ") = true ∧
      (∀ key, (bounds (edited everything edits) key).Admits ((run " 1.5 ").value? key)) ∧
      ¬∀ key, (bounds (edited everything edits) key).Admits ((run "1.5x").value? key) := by
  intro name rate edits selection run
  have huses : ∀ e ∈ edits, e.Uses Inclusive := by simp [edits, Edit.Uses, Inclusive]
  have hpasses : selection.passes (run " 1.5 ") = true := by decide
  have hfails : selection.passes (run "1.5x") ≠ true := by decide
  exact ⟨huses, by decide, hpasses,
    (passes_compile_edited_iff Pattern.test? huses _).mp hpasses,
    fun hadmits ↦ hfails ((passes_compile_edited_iff Pattern.test? huses _).mpr hadmits)⟩

end Selection

end RunQuery

import RunQuery.Proofs.Filter.Compiled
import RunQuery.Proofs.Filter.Link
import RunQuery.Proofs.Filter.Paths
import RunQuery.Run.Payload

/-!
# Damaged filters

Parts of a filter may get lost on its way here: what arrives in their place is data that is no
filter, or a condition that cannot be evaluated. A damaged filter lets no run through that the
intact one would have kept out.

Two facts make this so. Whatever cannot be evaluated is passed by no run, in each of the ways that
the compiler has of meeting it. And a filter has no negation above its conditions, so that it is
monotone in every subtree: a run that passes it with a subtree exchanged for one that is harder to
pass would have passed it before.
-/

namespace RunQuery.Filter

/-! ## Exchanged subtrees -/

mutual

/-- The filter in which other nodes stand where some paths lead, each in the place of a whole
subtree. -/
def replaced (damage : List Nat → Option Filter) : Filter → Filter
  | group op filters => (damage []).getD (group op (replacedList damage 0 filters))
  | leaf c => (damage []).getD (leaf c)
  | invalid data => (damage []).getD (invalid data)

/-- A list of filters, the first of them at index `i`, in which other nodes stand. -/
def replacedList (damage : List Nat → Option Filter) (i : Nat) : List Filter → List Filter
  | [] => []
  | filter :: filters =>
    replaced (fun path ↦ damage (i :: path)) filter :: replacedList damage (i + 1) filters

end

@[elab_as_elim]
theorem induct {motive : Filter → Prop} (filter : Filter)
    (group : ∀ op filters, (∀ child ∈ filters, motive child) → motive (group op filters))
    (leaf : ∀ c, motive (leaf c)) (invalid : ∀ data, motive (invalid data)) : motive filter :=
  @Filter.rec motive (fun filters ↦ ∀ child ∈ filters, motive child) group leaf invalid
    (fun _ h ↦ nomatch h) (fun _ _ hchild hrest ↦ List.forall_mem_cons.mpr ⟨hchild, hrest⟩) filter

section

variable {damage : List Nat → Option Filter} {filter node : Filter}

theorem replaced_of_root (h : damage [] = some node) : filter.replaced damage = node := by
  cases filter with
  | group | leaf | invalid => rw [replaced, h, Option.getD_some]

theorem replaced_cases (filter : Filter) (h : damage [] = none) :
    (∃ op filters, filter = group op filters ∧
      filter.replaced damage = group op (replacedList damage 0 filters)) ∨
    (∀ op filters, filter ≠ group op filters) ∧ filter.replaced damage = filter := by
  rcases filter with ⟨op, filters⟩ | c | data
  · exact .inl ⟨op, filters, rfl, by rw [replaced, h, Option.getD_none]⟩
  · exact .inr ⟨nofun, by rw [replaced, h, Option.getD_none]⟩
  · exact .inr ⟨nofun, by rw [replaced, h, Option.getD_none]⟩

@[simp] theorem getElem?_replacedList (damage : List Nat → Option Filter) (i j : Nat)
    (filters : List Filter) :
    (replacedList damage i filters)[j]?
      = filters[j]?.map fun child ↦ child.replaced fun path ↦ damage ((i + j) :: path) := by
  induction filters generalizing i j with
  | nil => rfl
  | cons filter filters ih =>
    rw [replacedList]
    cases j with
    | zero => rfl
    | succ j =>
      rw [List.getElem?_cons_succ, List.getElem?_cons_succ, ih]
      simp only [Nat.add_assoc, Nat.add_comm 1 j]

theorem mem_replacedList_iff {filters : List Filter} :
    node ∈ replacedList damage 0 filters ↔
      ∃ (i : Nat) (child : Filter), filters[i]? = some child ∧
        node = child.replaced fun path ↦ damage (i :: path) := by
  simp only [List.mem_iff_getElem?, getElem?_replacedList, Option.map_eq_some_iff, Nat.zero_add]
  simp only [eq_comm]

theorem follow?_replaced {path : List Nat}
    (h : ∀ start, start <+: path → start ≠ path → damage start = none) :
    (filter.replaced damage).follow? path
      = (filter.follow? path).map fun node ↦ node.replaced fun rest ↦ damage (path ++ rest) := by
  induction path generalizing filter damage with
  | nil => simp
  | cons i path ih =>
    have hroot : damage [] = none := h [] List.nil_prefix (List.cons_ne_nil _ _).symm
    have hbelow : ∀ start, start <+: path → start ≠ path → damage (i :: start) = none :=
      fun start hstart hne ↦ h (i :: start) (List.cons_prefix_cons.mpr ⟨rfl, hstart⟩)
        fun heq ↦ hne (List.cons.inj heq).2
    obtain ⟨op, filters, rfl, hgroup⟩ | ⟨hleaf, hsame⟩ := replaced_cases filter hroot
    · simp only [hgroup, follow?_group_cons, getElem?_replacedList, Nat.zero_add]
      cases filters[i]? with
      | none => rfl
      | some child => exact ih hbelow
    · have hnone : filter.follow? (i :: path) = none := by
        rw [Option.eq_none_iff_forall_ne_some]
        intro node hnode
        obtain ⟨op, filters, -, hfilter, -⟩ := follow?_cons_eq_some_iff.mp hnode
        exact hleaf op filters hfilter
      rw [hsame, hnone, Option.map_none]

/-! ## Filters are monotone -/

variable {language : PatternLanguage} {run : Run}

/-- Is each node harder to pass for the run than the subtree that it stands for? -/
def Hardens (language : PatternLanguage) (run : Run) (damage : List Nat → Option Filter)
    (filter : Filter) : Prop :=
  ∀ path node subtree, damage path = some node → filter.follow? path = some subtree →
    node.passes language run = true → subtree.passes language run = true

/-- The step at one node: what holds of its children holds of it. -/
theorem passes_of_passes_replaced_children
    (hdamage : Hardens language run damage filter)
    (hchildren : ∀ i child, filter.follow? [i] = some child →
      (child.replaced fun path ↦ damage (i :: path)).passes language run = true →
        child.passes language run = true)
    (h : (filter.replaced damage).passes language run = true) :
    filter.passes language run = true := by
  cases hroot : damage [] with
  | some node =>
    rw [replaced_of_root hroot] at h
    exact hdamage [] node filter hroot (follow?_nil filter) h
  | none =>
    obtain ⟨op, filters, rfl, hgroup⟩ | ⟨-, hsame⟩ := replaced_cases filter hroot
    · have hchild : ∀ (i : Nat) (child : Filter), filters[i]? = some child →
          (child.replaced fun path ↦ damage (i :: path)).passes language run = true →
            child.passes language run = true := by
        intro i child hi
        exact hchildren i child (by simp [hi])
      rw [hgroup] at h
      cases op with
      | and =>
        simp only [passes_all, List.all_eq_true] at h ⊢
        intro child hmem
        obtain ⟨i, hi⟩ := List.mem_iff_getElem?.mp hmem
        exact hchild i child hi (h _ (mem_replacedList_iff.mpr ⟨i, child, hi, rfl⟩))
      | or =>
        simp only [passes_any, List.any_eq_true] at h ⊢
        obtain ⟨node, hmem, hnode⟩ := h
        obtain ⟨i, child, hi, rfl⟩ := mem_replacedList_iff.mp hmem
        exact ⟨child, List.mem_of_getElem? hi, hchild i child hi hnode⟩
    · rwa [hsame] at h

/-- **A filter is monotone in its subtrees.** If each node is harder to pass than the subtree that
it stands for, so is the filter with the nodes exchanged. -/
theorem passes_of_passes_replaced (hdamage : Hardens language run damage filter)
    (h : (filter.replaced damage).passes language run = true) :
    filter.passes language run = true := by
  -- each child has its own damage: the paths that lead through it
  induction filter using induct generalizing damage with
  | group op filters ih =>
    refine passes_of_passes_replaced_children hdamage (fun i child hchild ↦ ?_) h
    obtain ⟨_, _, _, ⟨⟩, hi, heq⟩ := follow?_cons_eq_some_iff.mp hchild
    obtain rfl := Option.some.inj ((follow?_nil _).symm.trans heq)
    refine ih _ (List.mem_of_getElem? hi) fun path node subtree hnode hsubtree ↦ ?_
    exact hdamage (i :: path) node subtree hnode (by simp [hi, hsubtree])
  | leaf c => exact passes_of_passes_replaced_children hdamage nofun h
  | invalid data => exact passes_of_passes_replaced_children hdamage nofun h

end

/-! ## Nodes that cannot be evaluated -/

/-- What cannot be evaluated. -/
inductive IsBroken (language : PatternLanguage) : Filter → Prop
  /-- Data that is no filter. -/
  | shape (data : Json) : IsBroken language (invalid data)
  /-- A condition on a section that no run has. -/
  | area (c : Condition) (h : c.key.inSection.isKnown = false) : IsBroken language (leaf c)
  /-- The search of a pattern that is null. -/
  | noText (c : Condition) (hop : c.op = .pattern) (h : c.literal.isNull = true) :
    IsBroken language (leaf c)
  /-- The search of a text that is no pattern. -/
  | noPattern (c : Condition) (hop : c.op = .pattern)
    (h : language (Value.display c.literal) = none) : IsBroken language (leaf c)

theorem IsNormal.replaced {filter : Filter} (h : filter.IsNormal)
    {damage : List Nat → Option Filter}
    (hdamage : ∀ path node, damage path = some node → node.IsNormal) :
    (filter.replaced damage).IsNormal := by
  have hroot {filter : Filter} {damage : List Nat → Option Filter} (h : filter.IsNormal)
      (hdamage : ∀ node, damage [] = some node → node.IsNormal) :
      ((damage []).getD filter).IsNormal := by
    cases hnode : damage [] with
    | some node => exact hdamage node hnode
    | none => exact h
  induction h generalizing damage with
  | group op filters h ih =>
    rw [Filter.replaced]
    refine hroot (.group op _ fun node hmem ↦ ?_) (hdamage [])
    obtain ⟨i, child, hi, rfl⟩ := mem_replacedList_iff.mp hmem
    exact ih child (List.mem_of_getElem? hi) fun path ↦ hdamage (i :: path)
  | leaf c hsection hcanonical hfinite =>
    rw [Filter.replaced]
    exact hroot (.leaf c hsection hcanonical hfinite) (hdamage [])
  | invalid data hcanonical hstored hinvalid =>
    rw [Filter.replaced]
    exact hroot (.invalid data hcanonical hstored hinvalid) (hdamage [])

end RunQuery.Filter

namespace RunQuery.CompiledFilter

variable {language : PatternLanguage}

theorem compile_eq_never_iff {node : Filter} :
    compile language node = never ↔ Filter.IsBroken language node := by
  constructor
  · intro h
    rcases node with ⟨op, filters⟩ | c | data
    · -- a group stays a group, even if nothing in it is sound
      cases op with
      | and | or => cases h
    · rw [compile, ofCondition] at h
      cases hknown : c.key.inSection.isKnown with
      | false => exact .area c hknown
      | true =>
        by_cases hop : c.op = .pattern
        · cases hnull : c.literal.isNull with
          | true => exact .noText c hop hnull
          | false =>
            cases hread : language (Value.display c.literal) with
            | none => exact .noPattern c hop hread
            | some test => simp [hknown, hop, hnull, hread] at h
        · simp [hknown, hop] at h
    · exact .shape data
  · rintro (data | ⟨c, hknown⟩ | ⟨c, hop, hnull⟩ | ⟨c, hop, hread⟩)
    · rfl
    · rw [compile, ofCondition, hknown]
      rfl
    · cases hknown : c.key.inSection.isKnown with
      | false => simp [compile, ofCondition, hknown]
      | true => simp [compile, ofCondition, hknown, hop, hnull]
    · cases hknown : c.key.inSection.isKnown with
      | false => simp [compile, ofCondition, hknown]
      | true =>
        cases hnull : c.literal.isNull with
        | true => simp [compile, ofCondition, hknown, hop, hnull]
        | false => simp [compile, ofCondition, hknown, hop, hnull, hread]

theorem passes_eq_false_of_isBroken {node : Filter} (h : Filter.IsBroken language node)
    (run : Run) : node.passes language run = false := by
  rw [← passes_compile, compile_eq_never_iff.mpr h, passes]

/-- **Damage lets no run through.** However many subtrees of a filter are exchanged for nodes that
cannot be evaluated, the runs that it selects are among those that it selected before, in their
order. A path on which nothing is exchanged before its end leads to the node that it led to, with
what is exchanged there and below. Of such nodes, and of no others, the compiler makes a node that
nothing passes; and if filter and nodes are as data gives them, so is the damaged filter. -/
theorem select_compile_replaced_sublist (filter : Filter) {damage : List Nat → Option Filter}
    (hdamage : ∀ path node, damage path = some node → Filter.IsBroken language node) :
    (∀ runs, ((compile language (filter.replaced damage)).select runs).Sublist
      ((compile language filter).select runs)) ∧
    (∀ path, (∀ start, start <+: path → start ≠ path → damage start = none) →
      (filter.replaced damage).follow? path
        = (filter.follow? path).map fun node ↦ node.replaced fun rest ↦ damage (path ++ rest)) ∧
    (∀ node, compile language node = never ↔ Filter.IsBroken language node) ∧
    (filter.IsNormal → (∀ path node, damage path = some node → node.IsNormal) →
      Filter.ofJson (filter.replaced damage).toJson = filter.replaced damage) := by
  refine ⟨fun runs ↦ ?_, fun path ↦ Filter.follow?_replaced, fun node ↦ compile_eq_never_iff,
    fun hfilter hnodes ↦ (hfilter.replaced hnodes).ofJson_toJson⟩
  have hhardens : ∀ run, Filter.Hardens language run damage filter := by
    intro run path node subtree hnode _ hpasses
    rw [passes_eq_false_of_isBroken (hdamage path node hnode)] at hpasses
    cases hpasses
  rw [select, select]
  refine List.monotone_filter_right runs fun run h ↦ ?_
  rw [passes_compile] at h ⊢
  exact Filter.passes_of_passes_replaced (hhardens run) h

/-- A condition deep in the filter has become the search of a text that is no pattern, and a whole
alternative data that is no filter. The condition was a negative one: not to know it does not mean
that it holds. -/
theorem select_compile_replaced_of_negative_condition :
    let named : Filter := .compare ⟨.run, "name"⟩ .eq (.string "a")
    let untagged : Filter := .compare ⟨.tags, "x"⟩ .ne (.bool true)
    let running : Filter := .compare ⟨.run, "state"⟩ .eq (.string "running")
    let search : Filter := .compare ⟨.tags, "x"⟩ .pattern (.string "(")
    let damage : List Nat → Option Filter := fun path ↦
      if path = [0, 1] then some search else if path = [1] then some (.invalid .null) else none
    let filter := Filter.any [.all [named, untagged], .all [], running]
    let payloads : List Json := [.object [("name", .string "a")],
      .object [("name", .string "b"), ("state", .string "running")]]
    let runs := payloads.filterMap Run.ofPayload?
    filter.replaced damage = .any [.all [named, search], .invalid .null, running] ∧
      (∀ path node, damage path = some node → Filter.IsBroken Pattern.test? node) ∧
      ((compile Pattern.test? filter).select runs).map (·.id) = ["a", "b"] ∧
      ((compile Pattern.test? (filter.replaced damage)).select runs).map (·.id) = ["b"] ∧
      ((compile Pattern.test? (filter.replaced damage)).select runs).Sublist
        ((compile Pattern.test? filter).select runs) := by
  intro named untagged running search damage filter payloads runs
  have hsearch : Pattern.test? (Value.display (.string "(")) = none := by rfl
  have hdamage : ∀ path node, damage path = some node → Filter.IsBroken Pattern.test? node := by
    intro path node h
    simp only [damage] at h
    split at h
    · obtain rfl := Option.some.inj h
      exact .noPattern _ rfl hsearch
    · split at h
      · obtain rfl := Option.some.inj h
        exact .shape .null
      · cases h
  exact ⟨rfl, hdamage, rfl, rfl, (select_compile_replaced_sublist filter hdamage).1 runs⟩

end RunQuery.CompiledFilter

import Mathlib.Data.List.Nodup
import RunQuery.Sorting

/-!
# Stable sorting

Sorting puts runs in the one order that a list of runs has under a comparison which is total and
transitive, runs that compare equal staying as they were. Two things have to be seen for that.

* *The comparison is consistent.* Values of every kind are compared with one another: numbers by
  their place on the line, not-a-number last, and all else by its text, after the numbers. That is a
  comparison by a class, a number and a text, one after the other, and so it is total and transitive
  whatever is mixed. Turned round for a descending order it remains so, and runs without a value are
  put behind all others in either direction.
* *The order is unique.* Runs may be equal, so what is rearranged are runs with their places in the
  list. Places tell apart what compares equal, and an order without ties has one arrangement.
-/

namespace RunQuery

/-! ## The order of values -/

namespace Value

/-- Numbers come before all else. -/
def orderClass : Value → Nat
  | .number _ => 0
  | _ => 1

/-- The place of a number among the numbers. -/
def orderNumber : Value → Int
  | .number x => x.orderKey
  | _ => 0

def orderText : Value → String
  | .number _ => ""
  | v => display v

theorem order_eq (v w : Value) :
    order v w = compareLex (compareOn orderClass)
      (compareLex (compareOn orderNumber) (compareOn orderText)) v w := by
  cases v with
  | number x =>
    cases w with
    | number y =>
      change compare x.orderKey y.orderKey = (compare x.orderKey y.orderKey).then .eq
      rw [Ordering.then_eq]
    | null | bool | string | array | object => rfl
  | null | bool | string | array | object =>
    cases w with
    | number y => rfl
    | null | bool | string | array | object => rfl

/-- The comparison of values is total and transitive. -/
instance : Std.TransCmp order := by
  rw [show order = _ from funext fun v ↦ funext (order_eq v)]
  infer_instance

/-- Zeros are told apart by their sign, and not-a-number is the last of the numbers. -/
example :
    let values : List Value := [.number (.signed true Rank.zero), .number Double.zero,
      .number (Double.infinity false), .number .nan, .string "", .bool true]
    values.Pairwise fun v w ↦ order v w = .lt := by
  decide

end Value

namespace SortOrder

/-! ## What runs are sorted by -/

namespace Subject

variable {key : Key} {selected : List String} {run : Run} {v : Value}

@[simp] theorem value?_selected :
    Subject.selected.value? selected run = some (.bool (selected.contains run.id)) := rfl

/-- A run is sorted by its value under the key; where that is null it has none. -/
@[simp] theorem value?_field_eq_some_iff :
    (Subject.field key).value? selected run = some v ↔ run.value? key = some v ∧ v ≠ .null := by
  rw [value?, Option.filter_eq_some_iff]
  cases v <;> simp [Tree.isNull]

end Subject

/-! ## The comparison of runs -/

/-- The comparison of runs by the values that they have. A descending order turns the comparison of
values round, and leaves runs without a value where they are. -/
def comparison (ascending : Bool) : Option Value → Option Value → Ordering
  | some v, some w => if ascending then Value.order v w else (Value.order v w).swap
  | some _, none => .lt
  | none, some _ => .gt
  | none, none => .eq

theorem comparison_some (ascending : Bool) (v w : Value) :
    comparison ascending (some v) (some w)
      = if ascending then Value.order v w else Value.order w v := by
  rw [comparison, ← Std.OrientedCmp.eq_swap]

instance (ascending : Bool) : Std.OrientedCmp (comparison ascending) where
  eq_swap {a b} := by
    rcases a with - | v
    · rcases b with - | w
      · rfl
      · rfl
    · rcases b with - | w
      · rfl
      · have hswap : ∀ v w, Value.order v w = (Value.order w v).swap :=
          fun _ _ ↦ Std.OrientedCmp.eq_swap
        rw [comparison_some, comparison_some]
        cases ascending
        · exact hswap w v
        · exact hswap v w

theorem comparison_swap (ascending : Bool) (a b : Option Value) :
    comparison ascending b a = (comparison ascending a b).swap :=
  Std.OrientedCmp.eq_swap

/-- The comparison of runs is total and transitive. -/
instance (ascending : Bool) : Std.TransCmp (comparison ascending) where
  isLE_trans {a b c} hab hbc := by
    -- nothing comes after a run without a value but another such run
    rcases c with - | x
    · rcases a with - | v
      · rfl
      · rfl
    rcases b with - | w
    · cases hbc
    rcases a with - | v
    · cases hab
    have htrans : ∀ {u v w : Value}, (Value.order u v).isLE → (Value.order v w).isLE →
        (Value.order u w).isLE := Std.TransCmp.isLE_trans
    rw [comparison_some] at hab hbc ⊢
    cases ascending
    · exact htrans hbc hab
    · exact htrans hab hbc

theorem precedes_eq_isLE (ascending : Bool) (a b : Option Value) :
    precedes ascending a b = (comparison ascending a b).isLE := by
  rcases a with - | v
  · rcases b with - | w
    · rfl
    · rfl
  · rcases b with - | w
    · rfl
    · cases ascending
      · exact Ordering.isLE_swap.symm
      · rfl

theorem precedes_trans {ascending : Bool} {a b c : Option Value}
    (hab : precedes ascending a b = true) (hbc : precedes ascending b c = true) :
    precedes ascending a c = true := by
  rw [precedes_eq_isLE] at hab hbc ⊢
  exact Std.TransCmp.isLE_trans hab hbc

theorem precedes_total (ascending : Bool) (a b : Option Value) :
    (precedes ascending a b || precedes ascending b a) = true := by
  rw [precedes_eq_isLE, precedes_eq_isLE, comparison_swap ascending a b]
  cases comparison ascending a b <;> rfl

/-- Do the values of two runs compare equal, or do both have none? -/
def Ties : Option Value → Option Value → Prop
  | some v, some w => Value.order v w = .eq
  | none, none => True
  | _, _ => False

instance : DecidableRel Ties
  | some v, some w => inferInstanceAs (Decidable (Value.order v w = .eq))
  | none, none => .isTrue trivial
  | some _, none => .isFalse id
  | none, some _ => .isFalse id

/-- What it says that one run may come before another: not one without a value before one with a
value, and no values against the direction. -/
theorem precedes_iff {ascending : Bool} {a b : Option Value} :
    precedes ascending a b = true ↔ (b.isSome → a.isSome) ∧
      ∀ v w, a = some v → b = some w →
        (if ascending then Value.order v w else Value.order w v) ≠ .gt := by
  rw [precedes_eq_isLE]
  rcases a with - | v
  · rcases b with - | w
    · simp [comparison]
    · simp [comparison]
  · rcases b with - | w
    · simp [comparison]
    · simp [comparison_some, Ordering.isLE_iff_ne_gt]

theorem ties_iff (ascending : Bool) {a b : Option Value} :
    Ties a b ↔ precedes ascending a b = true ∧ precedes ascending b a = true := by
  have hties : Ties a b ↔ comparison ascending a b = .eq := by
    rcases a with - | v
    · rcases b with - | w
      · simp [Ties, comparison]
      · simp [Ties, comparison]
    · rcases b with - | w
      · simp [Ties, comparison]
      · cases ascending
        · simp [Ties, comparison]
        · simp [Ties, comparison]
  rw [hties, precedes_eq_isLE, precedes_eq_isLE, comparison_swap ascending a b]
  constructor
  · intro h
    rw [h]
    exact ⟨rfl, rfl⟩
  · rintro ⟨hle, hge⟩
    exact Ordering.eq_eq_of_isLE_of_isLE_swap hle hge

/-! ## The arrangement of runs -/

/-- Are the runs of a list, each with its place in it, in sorted order? -/
structure IsArranged (ascending : Bool) (value? : Run → Option Value) (runs : List Run)
    (placed : List (Run × Nat)) : Prop where
  /-- They are the runs of the list with their places. -/
  perm : placed.Perm runs.zipIdx
  /-- A run with a value comes before every run without one. -/
  valuedFirst : placed.Pairwise fun a b ↦ (value? b.1).isSome → (value? a.1).isSome
  /-- From one value to the next it does not go against the direction. -/
  monotone : placed.IsChain fun a b ↦ ∀ v w, value? a.1 = some v → value? b.1 = some w →
    (if ascending then Value.order v w else Value.order w v) ≠ .gt
  /-- Runs that compare equal, and runs without a value, stay in the order of their places. -/
  stable : placed.Pairwise fun a b ↦ Ties (value? a.1) (value? b.1) → a.2 < b.2

/-- May a run at a place come before another in sorted order? -/
def ComesBefore (ascending : Bool) (value? : Run → Option Value) (a b : Run × Nat) : Prop :=
  precedes ascending (value? a.1) (value? b.1) = true ∧
    (Ties (value? a.1) (value? b.1) → a.2 ≤ b.2)

/-- The runs of a list with their places, sorted by their values and then by their places. -/
def arrangement (ascending : Bool) (value? : Run → Option Value) (runs : List Run) :
    List (Run × Nat) :=
  runs.zipIdx.mergeSort
    (List.zipIdxLE fun run other ↦ precedes ascending (value? run) (value? other))

section

variable {ascending : Bool} {value? : Run → Option Value} {runs : List Run}
  {placed : List (Run × Nat)}

theorem zipIdxLE_iff_comesBefore {a b : Run × Nat} :
    List.zipIdxLE (fun run other ↦ precedes ascending (value? run) (value? other)) a b = true
      ↔ ComesBefore ascending value? a b := by
  rw [List.zipIdxLE, ComesBefore, ties_iff ascending]
  by_cases hle : precedes ascending (value? a.1) (value? b.1) = true
  · by_cases hge : precedes ascending (value? b.1) (value? a.1) = true
    · simp [hle, hge]
    · simp [hle, hge]
  · simp [hle]

theorem nodup_places (runs : List Run) : (runs.zipIdx.map Prod.snd).Nodup := by
  rw [List.zipIdx_map_snd]
  exact List.nodup_range' _

theorem ComesBefore.antisymm {a b : Run × Nat} (hab : ComesBefore ascending value? a b)
    (hba : ComesBefore ascending value? b a) (ha : a ∈ runs.zipIdx) (hb : b ∈ runs.zipIdx) :
    a = b := by
  have hties : Ties (value? a.1) (value? b.1) := (ties_iff ascending).mpr ⟨hab.1, hba.1⟩
  have hties' : Ties (value? b.1) (value? a.1) := (ties_iff ascending).mpr ⟨hba.1, hab.1⟩
  exact List.inj_on_of_nodup_map (nodup_places runs) ha hb
    (Nat.le_antisymm (hab.2 hties) (hba.2 hties'))

/-- Neighbours in order are enough: any run may come before any later one. -/
theorem IsArranged.pairwise (h : IsArranged ascending value? runs placed) :
    placed.Pairwise (ComesBefore ascending value?) := by
  let R (a b : Run × Nat) : Prop := precedes ascending (value? a.1) (value? b.1) = true
  have hchain : placed.IsChain R := by
    rw [List.isChain_iff_getElem]
    intro i hi
    have hvalued := List.pairwise_iff_getElem.mp h.valuedFirst i (i + 1) (by omega) hi (by omega)
    exact precedes_iff.mpr ⟨hvalued, List.isChain_iff_getElem.mp h.monotone i hi⟩
  have : Trans R R R := ⟨precedes_trans⟩
  exact (hchain.pairwise.and h.stable).imp fun hab ↦ ⟨hab.1, fun hties ↦ Nat.le_of_lt (hab.2 hties)⟩

theorem pairwise_arrangement (ascending : Bool) (value? : Run → Option Value) (runs : List Run) :
    (arrangement ascending value? runs).Pairwise (ComesBefore ascending value?) := by
  let le (run other : Run) : Bool := precedes ascending (value? run) (value? other)
  have htrans : ∀ a b c, le a b → le b c → le a c := fun _ _ _ ↦ precedes_trans
  have htotal : ∀ a b, le a b || le b a := fun _ _ ↦ precedes_total ascending _ _
  exact (List.pairwise_mergeSort (List.zipIdxLE_trans htrans) (List.zipIdxLE_total htotal)
    runs.zipIdx).imp zipIdxLE_iff_comesBefore.mp

theorem arrangement_perm (ascending : Bool) (value? : Run → Option Value) (runs : List Run) :
    (arrangement ascending value? runs).Perm runs.zipIdx :=
  List.mergeSort_perm ..

/-- A list of runs has one arrangement. -/
theorem isArranged_iff :
    IsArranged ascending value? runs placed ↔ placed = arrangement ascending value? runs := by
  have hperm := arrangement_perm ascending value? runs
  have hpairwise := pairwise_arrangement ascending value? runs
  constructor
  · intro h
    refine List.Perm.eq_of_pairwise (fun a b ha hb hab hba ↦ ?_) h.pairwise hpairwise
      (h.perm.trans hperm.symm)
    exact hab.antisymm hba (h.perm.mem_iff.mp ha) (hperm.mem_iff.mp hb)
  · rintro rfl
    have hne : (arrangement ascending value? runs).Pairwise fun a b ↦ a.2 ≠ b.2 :=
      List.pairwise_map.mp ((hperm.map Prod.snd).nodup_iff.mpr (nodup_places runs))
    refine ⟨hperm, hpairwise.imp fun hab ↦ (precedes_iff.mp hab.1).1,
      (hpairwise.imp fun hab ↦ (precedes_iff.mp hab.1).2).isChain, ?_⟩
    exact (hpairwise.and hne).imp fun hab hties ↦ Nat.lt_of_le_of_ne (hab.1.2 hties) hab.2

end

/-! ## Sorting -/

theorem sort_eq_map_arrangement {order : SortOrder} {subject : Subject}
    (h : order.subject? = some subject) (selected : List String) (runs : List Run) :
    order.sort selected runs
      = (arrangement order.ascending (subject.value? selected) runs).map Prod.fst := by
  let decorate (run : Run) : Option Value × Run := (subject.value? selected run, run)
  have hdecorated : (runs.map decorate).mergeSort (fun a b ↦ precedes order.ascending a.1 b.1)
      = (runs.mergeSort fun run other ↦ precedes order.ascending
          (subject.value? selected run) (subject.value? selected other)).map decorate :=
    (List.map_mergeSort (f := decorate) fun _ _ _ _ ↦ rfl).symm
  rw [arrangement, List.mergeSort_zipIdx, sort, h]
  dsimp only
  rw [hdecorated, List.map_map]
  exact List.map_id _

/-- The name `selected` is also the text of a key. -/
theorem subject?_eq_none_iff {order : SortOrder} :
    order.subject? = none ↔ order.name.bind Key.parse? = none := by
  rw [subject?]
  cases order.name with
  | none => exact iff_of_true rfl rfl
  | some name =>
    rw [Option.bind_some, Option.bind_some, Subject.ofName?]
    by_cases hname : name = selectedName
    · rw [if_pos hname, hname]
      decide
    · rw [if_neg hname, Option.map_eq_none_iff]

/-- **Sorting is the one stable arrangement.** The comparison of values is total and transitive, and
so is that of runs in either direction, which is the one that sorting goes by. An order whose name
is missing or names no key leaves the runs as they are. Any other order has exactly one arrangement
of the runs in which those with a value come first, the values follow the direction, and runs that
compare equal or have no value stay in their order; sorting gives this one. -/
theorem sort_eq_map_iff_isArranged (order : SortOrder) (selected : List String)
    (runs : List Run) :
    Std.TransCmp Value.order ∧
      (Std.TransCmp (comparison order.ascending) ∧
        ∀ a b, precedes order.ascending a b = (comparison order.ascending a b).isLE) ∧
      (order.name.bind Key.parse? = none → order.sort selected runs = runs) ∧
      (order.name.bind Key.parse? ≠ none → ∃ subject placed, order.subject? = some subject ∧
        order.sort selected runs = placed.map Prod.fst ∧
        ∀ other, IsArranged order.ascending (subject.value? selected) runs other
          ↔ other = placed) := by
  refine ⟨inferInstance, ⟨inferInstance, precedes_eq_isLE _⟩, fun hnone ↦ ?_, fun hsome ↦ ?_⟩
  · rw [sort, subject?_eq_none_iff.mpr hnone]
  · obtain ⟨subject, hsubject⟩ := Option.ne_none_iff_exists'.mp (mt subject?_eq_none_iff.mp hsome)
    exact ⟨subject, _, hsubject, sort_eq_map_arrangement hsubject selected runs,
      fun other ↦ isArranged_iff⟩

/-- Texts, not-a-number and numbers from the greatest to the least. Of equal numbers the first stays
first, and a null goes to the end with a missing value. -/
theorem sort_mixed_runs :
    let run (id : String) (summary : List (String × Value)) : Run :=
      { (default : Run) with id, summary := Dict.ofList summary }
    let two : Value := .number (Double.ofNat 2)
    let order : SortOrder := ⟨some "summary:loss", false⟩
    let runs := [run "a" [("loss", .string "10")], run "b" [("loss", two)],
      run "c" [("loss", .null)], run "d" [("loss", .number .nan)], run "e" [],
      run "f" [("loss", two)], run "g" [("loss", .string "1a")]]
    order.name.bind Key.parse? ≠ none ∧
      (order.sort [] runs).map Run.id = ["g", "a", "d", "b", "f", "c", "e"] := by
  intro run two order runs
  have hname : order.name.bind Key.parse? ≠ none := by decide
  obtain ⟨-, -, -, hsort⟩ := sort_eq_map_iff_isArranged order [] runs
  obtain ⟨subject, placed, hsubject, hsorted, hunique⟩ := hsort hname
  let loss : Subject := .field ⟨.summary, "loss"⟩
  obtain rfl : loss = subject := by
    have hloss : order.subject? = some loss := by decide
    exact Option.some.inj (hloss.symm.trans hsubject)
  -- the runs with their places, in the order in which they should come
  let expected := [6, 0, 3, 1, 5, 2, 4].filterMap (runs.zipIdx[·]?)
  have hperm : List.Perm [6, 0, 3, 1, 5, 2, 4] (List.range 7) := by decide
  have hchain : expected.IsChain fun a b ↦
      precedes order.ascending (loss.value? [] a.1) (loss.value? [] b.1) = true := by decide
  have harranged : IsArranged order.ascending (loss.value? []) runs expected :=
    { perm := hperm.filterMap (runs.zipIdx[·]?)
      valuedFirst := by decide
      monotone := hchain.imp fun _ _ h ↦ (precedes_iff.mp h).2
      stable := by decide }
  refine ⟨hname, ?_⟩
  rw [hsorted, ← (hunique expected).mp harranged]
  rfl

end SortOrder

end RunQuery

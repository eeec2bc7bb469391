import Mathlib.Logic.ExistsUnique
import RunQuery.Proofs.Value.Equality

/-!
# Comparisons that fit together

The six comparisons of a field with a literal are given by two rules of different kinds. Equality
holds of values that are identical, or equal as numbers, or shown by one text; the orderings are
those of the numbers that the two sides are or write. What makes them fit is that on two numbers the
three ways of being equal come down to the second: identical values that write numbers write equal
ones, and texts are not asked any more.

Not-a-number is no number to either rule: no ordering holds of it, and a text that writes it is
equal to itself as a text only.
-/

namespace RunQuery

/-! ## Doubles on the line -/

namespace Double

theorem numEq_comm (x y : Double) : numEq x y = numEq y x := by
  match x, y with
  | .nan, .nan => rfl
  | .nan, .signed _ _ => rfl
  | .signed _ _, .nan => rfl
  | .signed _ _, .signed _ _ => exact Bool.beq_comm

theorem numLe_eq (x y : Double) : numLe x y = (numLt x y || numEq x y) := by
  match x, y with
  | .nan, _ => rfl
  | .signed _ _, .nan => rfl
  | .signed s r, .signed s' r' =>
    rw [numLe, numLt, numEq, Bool.eq_iff_iff, Bool.or_eq_true, decide_eq_true_eq,
      decide_eq_true_eq, beq_iff_eq]
    exact Int.le_iff_lt_or_eq

theorem numLt_trichotomy {x y : Double} (hx : x ≠ .nan) (hy : y ≠ .nan) :
    (numLt x y = true ∧ numEq x y = false ∧ numLt y x = false) ∨
    (numLt x y = false ∧ numEq x y = true ∧ numLt y x = false) ∨
    (numLt x y = false ∧ numEq x y = false ∧ numLt y x = true) := by
  match x, y with
  | .nan, _ => exact absurd rfl hx
  | .signed _ _, .nan => exact absurd rfl hy
  | .signed s r, .signed s' r' =>
    simp only [numLt, numEq, decide_eq_true_eq, decide_eq_false_iff_not, beq_iff_eq,
      beq_eq_false_iff_ne]
    omega

end Double

/-! ## Equal values -/

section

variable {ν : Type} {eq : ν → ν → Bool}

mutual

theorem Tree.equal_comm (heq : ∀ a b, eq a b = eq b a) (t u : Tree ν) :
    equal eq t u = equal eq u t := by
  cases t with
  | null => cases u <;> rfl
  | bool a =>
    cases u with
    | bool b => exact Bool.beq_comm
    | null | number | string | array | object => rfl
  | number a =>
    cases u with
    | number b => exact heq a b
    | null | bool | string | array | object => rfl
  | string a =>
    cases u with
    | string b => exact Bool.beq_comm
    | null | bool | number | array | object => rfl
  | array items =>
    cases u with
    | array others => exact equalItems_comm heq items others
    | null | bool | number | string | object => rfl
  | object members =>
    cases u with
    | object others => exact equalMembers_comm heq members others
    | null | bool | number | string | array => rfl

theorem Tree.equalItems_comm (heq : ∀ a b, eq a b = eq b a) (items others : List (Tree ν)) :
    equalItems eq items others = equalItems eq others items := by
  cases items with
  | nil => cases others <;> rfl
  | cons t items =>
    cases others with
    | nil => rfl
    | cons u others =>
      rw [equalItems, equalItems, equal_comm heq t u, equalItems_comm heq items others]

theorem Tree.equalMembers_comm (heq : ∀ a b, eq a b = eq b a)
    (members others : List (String × Tree ν)) :
    equalMembers eq members others = equalMembers eq others members := by
  cases members with
  | nil => cases others <;> rfl
  | cons m members =>
    obtain ⟨k, t⟩ := m
    cases others with
    | nil => rfl
    | cons n others =>
      obtain ⟨l, u⟩ := n
      rw [equalMembers, equalMembers, equal_comm heq t u, equalMembers_comm heq members others,
        Bool.beq_comm (a := k)]

end

end

namespace Value

theorem equal_comm (v w : Value) : equal v w = equal w v := by
  have hidentical : identical v w = identical w v := Tree.equal_comm Double.numEq_comm v w
  rw [equal, equal, hidentical]
  cases toNumber? v with
  | none =>
    cases toNumber? w with
    | none => rw [Bool.beq_comm]
    | some y => rw [Bool.beq_comm]
  | some x =>
    cases toNumber? w with
    | none => rw [Bool.beq_comm]
    | some y =>
      dsimp only
      rw [Double.numEq_comm]

theorem numEq_of_identical {v w : Value} {x y : Double} (hv : toNumber? v = some x)
    (hw : toNumber? w = some y) (hx : x ≠ .nan) (h : identical v w = true) :
    Double.numEq x y = true := by
  -- values of different kinds are not identical, and one text writes one number
  obtain rfl | ⟨s, rfl⟩ := number_or_string hv
  · obtain rfl | ⟨t, rfl⟩ := number_or_string hw
    · exact h
    · cases h
  · obtain rfl | ⟨t, rfl⟩ := number_or_string hw
    · cases h
    · obtain rfl : s = t := beq_iff_eq.mp h
      obtain rfl := Option.some.inj (hv.symm.trans hw)
      exact numEq_self hx

/-- On two numbers the three ways of being equal are one. -/
theorem equal_of_toNumber? {v w : Value} {x y : Double} (hv : toNumber? v = some x)
    (hw : toNumber? w = some y) (hx : x ≠ .nan) : equal v w = Double.numEq x y := by
  rw [equal, hv, hw]
  cases hidentical : identical v w with
  | false => rfl
  | true => exact (numEq_of_identical hv hw hx hidentical).symm

/-- Is the value a number, or does it write one? Not-a-number is none. -/
def IsNumeric (v : Value) : Prop := ∃ x, toNumber? v = some x ∧ x ≠ .nan

end Value

/-! ## The comparisons -/

namespace Operator

/-- The operator that says the same with the sides exchanged. -/
def mirrored : Operator → Operator
  | eq => eq
  | ne => ne
  | lt => gt
  | le => ge
  | gt => lt
  | ge => le
  | pattern => pattern

@[simp] theorem orders_mirrored (op : Operator) (x y : Double) :
    op.mirrored.orders y x = op.orders x y := by
  cases op <;> rfl

theorem orders_eq_false {x y : Double} (h : x = .nan ∨ y = .nan) (op : Operator) :
    op.orders x y = false := by
  obtain rfl | rfl := h
  · cases op with
    | lt | le | eq | ne | pattern => rfl
    | gt | ge => cases y <;> rfl
  · cases op with
    | gt | ge | eq | ne | pattern => rfl
    | lt | le => cases x <;> rfl

section

variable (field : Option Value) (literal : Value)

theorem compares_eq :
    eq.compares field literal
      = if (field.getD .null).isNull || literal.isNull
        then (field.getD .null).isNull && literal.isNull
        else Value.equal (field.getD .null) literal :=
  rfl

@[simp] theorem compares_ne : ne.compares field literal = !eq.compares field literal := by
  rw [compares_eq, compares.eq_def]
  dsimp only
  split <;> rfl

@[simp] theorem compares_pattern : pattern.compares field literal = false := ite_self false

/-- An ordering between a field and a literal is that of the numbers that they are or write. -/
theorem compares_of_isOrdering {op : Operator} (hop : op.isOrdering = true) :
    op.compares field literal
      = match Value.toNumber? (field.getD .null), Value.toNumber? literal with
        | some x, some y => op.orders x y
        | _, _ => false := by
  rw [compares.eq_def]
  dsimp only
  generalize field.getD .null = v
  cases op with
  | eq | ne | pattern => cases hop
  | lt | le | gt | ge =>
    -- a null side is settled before numbers are asked for, but it has none either
    cases hv : Value.toNumber? v with
    | none => exact ite_self false
    | some x =>
      cases hliteral : Value.toNumber? literal with
      | none => exact ite_self false
      | some y =>
        rw [Value.isNull_eq_false_of_toNumber? hv, Value.isNull_eq_false_of_toNumber? hliteral]
        rfl

theorem compares_mirrored (op : Operator) :
    op.mirrored.compares (some literal) (field.getD .null) = op.compares field literal := by
  have heq : eq.compares (some literal) (field.getD .null) = eq.compares field literal := by
    rw [compares_eq, compares_eq, Option.getD_some, Bool.or_comm, Bool.and_comm, Value.equal_comm]
  have hordering : ∀ op : Operator, op.isOrdering = true → op.mirrored.isOrdering = true →
      op.mirrored.compares (some literal) (field.getD .null) = op.compares field literal := by
    intro op hop hmirrored
    rw [compares_of_isOrdering _ _ hop, compares_of_isOrdering _ _ hmirrored, Option.getD_some]
    cases Value.toNumber? (field.getD .null) with
    | none => cases Value.toNumber? literal <;> rfl
    | some x =>
      cases Value.toNumber? literal with
      | none => rfl
      | some y => simp
  cases op with
  | eq => exact heq
  | ne => simp [mirrored, heq]
  | lt => exact hordering .lt rfl rfl
  | le => exact hordering .le rfl rfl
  | gt => exact hordering .gt rfl rfl
  | ge => exact hordering .ge rfl rfl
  | pattern => simp [mirrored]

end

section

variable {field : Option Value} {literal : Value}

theorem compares_iff_of_isOrdering {op : Operator} (hop : op.isOrdering = true) :
    op.compares field literal = true ↔
      ∃ x y, Value.toNumber? (field.getD .null) = some x ∧ Value.toNumber? literal = some y ∧
        op.orders x y = true := by
  rw [compares_of_isOrdering _ _ hop]
  cases Value.toNumber? (field.getD .null) with
  | none => simp
  | some x =>
    cases Value.toNumber? literal with
    | none => simp
    | some y => simp

theorem compares_eq_false_of_not_isNumeric
    (h : ¬((field.getD .null).IsNumeric ∧ literal.IsNumeric)) {op : Operator}
    (hop : op.isOrdering = true) : op.compares field literal = false := by
  rw [Bool.eq_false_iff, ne_eq, compares_iff_of_isOrdering hop]
  rintro ⟨x, y, hx, hy, horders⟩
  have hnan : ¬(x = .nan ∨ y = .nan) := by
    intro hnan
    rw [orders_eq_false hnan] at horders
    cases horders
  exact h ⟨⟨x, hx, fun heq ↦ hnan (.inl heq)⟩, ⟨y, hy, fun heq ↦ hnan (.inr heq)⟩⟩

section

variable {x y : Double}

theorem compares_eq_of_toNumber? (hx : Value.toNumber? (field.getD .null) = some x)
    (hy : Value.toNumber? literal = some y) (hnan : x ≠ .nan) :
    eq.compares field literal = Double.numEq x y := by
  rw [compares_eq, Value.isNull_eq_false_of_toNumber? hx, Value.isNull_eq_false_of_toNumber? hy]
  exact Value.equal_of_toNumber? hx hy hnan

theorem compares_of_toNumber? {op : Operator} (hop : op.isOrdering = true)
    (hx : Value.toNumber? (field.getD .null) = some x) (hy : Value.toNumber? literal = some y) :
    op.compares field literal = op.orders x y := by
  rw [compares_of_isOrdering _ _ hop, hx, hy]

end

/-- Of two numeric sides one is less, or they are equal, and only one of these. -/
theorem existsUnique_compares (hfield : (field.getD .null).IsNumeric)
    (hliteral : literal.IsNumeric) :
    ∃! op, op ∈ [lt, eq, gt] ∧ op.compares field literal = true := by
  obtain ⟨x, hx, hxnan⟩ := hfield
  obtain ⟨y, hy, hynan⟩ := hliteral
  have hlt : lt.compares field literal = Double.numLt x y := compares_of_toNumber? rfl hx hy
  have hgt : gt.compares field literal = Double.numLt y x := compares_of_toNumber? rfl hx hy
  have heq := compares_eq_of_toNumber? hx hy hxnan
  obtain ⟨h, h', h''⟩ | ⟨h, h', h''⟩ | ⟨h, h', h''⟩ := Double.numLt_trichotomy hxnan hynan
  · exact ⟨lt, by simp [hlt, h], by simp [heq, hgt, h', h'']⟩
  · exact ⟨eq, by simp [heq, h'], by simp [hlt, hgt, h, h'']⟩
  · exact ⟨gt, by simp [hgt, h''], by simp [hlt, heq, h, h']⟩

theorem compares_le (hfield : (field.getD .null).IsNumeric) (hliteral : literal.IsNumeric) :
    le.compares field literal = (lt.compares field literal || eq.compares field literal) := by
  obtain ⟨x, hx, hxnan⟩ := hfield
  obtain ⟨y, hy, -⟩ := hliteral
  rw [compares_of_toNumber? rfl hx hy, compares_of_toNumber? rfl hx hy,
    compares_eq_of_toNumber? hx hy hxnan]
  exact Double.numLe_eq x y

theorem compares_ge (hfield : (field.getD .null).IsNumeric) (hliteral : literal.IsNumeric) :
    ge.compares field literal = (gt.compares field literal || eq.compares field literal) := by
  obtain ⟨x, hx, hxnan⟩ := hfield
  obtain ⟨y, hy, -⟩ := hliteral
  rw [compares_of_toNumber? rfl hx hy, compares_of_toNumber? rfl hx hy,
    compares_eq_of_toNumber? hx hy hxnan, Double.numEq_comm]
  exact Double.numLe_eq y x

end

/-- **The comparisons of a field with a literal fit together**, whatever values they are, and an
absent field counts as null. Inequality is the negation of equality, and the sides may be exchanged
with the operator mirrored. An ordering is that of the numbers which the sides are or write. If both
sides are numeric, exactly one of less, equal and greater holds, and the other two orderings admit
equality as well. If one is not (it is null, writes no number, or is or writes not-a-number), no
ordering holds. -/
theorem compares_mirrored_and_trichotomy (field : Option Value) (literal : Value) :
    (ne.compares field literal = !eq.compares field literal) ∧
    (∀ op : Operator,
      op.mirrored.compares (some literal) (field.getD .null) = op.compares field literal) ∧
    (∀ op : Operator, op.isOrdering = true →
      (op.compares field literal = true ↔
        ∃ x y, Value.toNumber? (field.getD .null) = some x ∧ Value.toNumber? literal = some y ∧
          op.orders x y = true)) ∧
    ((field.getD .null).IsNumeric → literal.IsNumeric →
      (∃! op, op ∈ [lt, eq, gt] ∧ op.compares field literal = true) ∧
      (le.compares field literal = (lt.compares field literal || eq.compares field literal)) ∧
      (ge.compares field literal = (gt.compares field literal || eq.compares field literal))) ∧
    (¬((field.getD .null).IsNumeric ∧ literal.IsNumeric) →
      ∀ op : Operator, op.isOrdering = true → op.compares field literal = false) :=
  ⟨compares_ne field literal, compares_mirrored field literal,
    fun _ hop ↦ compares_iff_of_isOrdering hop,
    fun hfield hliteral ↦ ⟨existsUnique_compares hfield hliteral, compares_le hfield hliteral,
      compares_ge hfield hliteral⟩,
    fun h _ hop ↦ compares_eq_false_of_not_isNumeric h hop⟩

/-- A text that writes ten, with blanks around it, is greater than the number nine. -/
theorem compares_written_number :
    let field : Value := .string " 1e1 "
    let literal : Value := .number (Double.ofNat 9)
    field.IsNumeric ∧ literal.IsNumeric ∧
      (∃! op, op ∈ [lt, eq, gt] ∧ op.compares (some field) literal = true) ∧
      gt.compares (some field) literal = true ∧ lt.compares (some literal) field = true ∧
      ge.compares (some field) literal = true := by
  intro field literal
  obtain ⟨-, hmirrored, hordering, htrichotomy, -⟩ :=
    compares_mirrored_and_trichotomy (some field) literal
  have hfield : Value.toNumber? field = some (Double.ofNat 10) := by decide
  have hliteral : Value.toNumber? literal = some (Double.ofNat 9) := rfl
  have hnumeric : field.IsNumeric := ⟨_, hfield, by decide⟩
  have hnumeric' : literal.IsNumeric := ⟨_, hliteral, by decide⟩
  have hgt : gt.compares (some field) literal = true :=
    (hordering gt rfl).mpr ⟨_, _, hfield, hliteral, by decide⟩
  obtain ⟨hunique, -, hge⟩ := htrichotomy hnumeric hnumeric'
  refine ⟨hnumeric, hnumeric', hunique, hgt, ?_, ?_⟩
  · exact (hmirrored gt).trans hgt
  · rw [hge, hgt, Bool.true_or]

/-- The word for not-a-number is equal to itself and not-a-number is not, and no ordering holds of
either. -/
example :
    let nan : Value := .number .nan
    let word : Value := .string "NaN"
    eq.compares (some word) word = true ∧ eq.compares (some nan) nan = false ∧
      ge.compares (some word) word = false ∧ ge.compares (some nan) nan = false := by
  decide

end Operator

end RunQuery

import RunQuery.Filter.Basic

/-!
# Comparison of a field with a literal

Whether a condition holds of the value of a field. A field that is absent counts as null.

Null is comparable to nothing: with null on either side only equality has an answer, which is
whether both are null. Otherwise `=` holds of values that are identical, or equal as numbers where
both are numbers or write one, or shown by the same text where not both are. The orderings are
those of numbers, and hold of nothing else.

Whether a pattern occurs is not decided here.
-/

namespace RunQuery

namespace Value

/-- Are two values equal in the sense of a filter? -/
def equal (v w : Value) : Bool :=
  identical v w ||
    match toNumber? v, toNumber? w with
    | some x, some y => Double.numEq x y
    | _, _ => display v == display w

end Value

namespace Operator

/-- Does an ordering hold between two numbers? -/
def orders (op : Operator) (x y : Double) : Bool :=
  match op with
  | lt => Double.numLt x y
  | le => Double.numLe x y
  | gt => Double.numLt y x
  | ge => Double.numLe y x
  | eq | ne | pattern => false

/-- Does the comparison hold of a field and a literal? -/
def compares (op : Operator) (field : Option Value) (literal : Value) : Bool :=
  let value := field.getD .null
  if value.isNull || literal.isNull then
    match op with
    | eq => value.isNull && literal.isNull
    | ne => !(value.isNull && literal.isNull)
    | _ => false
  else
    match op with
    | eq => Value.equal value literal
    | ne => !Value.equal value literal
    | pattern => false
    | op =>
      match Value.toNumber? value, Value.toNumber? literal with
      | some x, some y => op.orders x y
      | _, _ => false

end Operator

end RunQuery

import RunQuery.Filter.Basic
import RunQuery.Unicode.Class

/-!
# Conditions as text

A condition as somebody types it: a key, an operator and a value, as in `config:lr<0.1`. It is cut
at the first place where an operator begins, and there the longest operator counts. White space
around key and value does not matter. The value is a typed literal, apart from that of a pattern,
which is a text.
-/

namespace RunQuery

namespace Condition

/-- Why a text is no condition. -/
inductive TextError where
  /-- There is no operator in it. -/
  | noOperator (text : String)
  /-- What comes before the operator names no key. -/
  | invalidKey (text : String)
  deriving DecidableEq

/-- The cause in words. -/
def TextError.message : TextError → String
  | .noOperator text => "No operator in condition " ++ Text.quoted text
  | .invalidKey text => "Invalid key in condition " ++ Text.quoted text

/-- The operator at the front of a text, the longest one that is there, and what follows. -/
def operatorAt? : List Char → Option (Operator × List Char)
  | '=' :: '~' :: rest => some (.pattern, rest)
  | '!' :: '=' :: rest => some (.ne, rest)
  | '<' :: '=' :: rest => some (.le, rest)
  | '>' :: '=' :: rest => some (.ge, rest)
  | '=' :: rest => some (.eq, rest)
  | '<' :: rest => some (.lt, rest)
  | '>' :: rest => some (.gt, rest)
  | _ => none

/-- A text cut at its first operator: what comes before, the operator, and what comes after. -/
def cut? : List Char → Option (List Char × Operator × List Char)
  | [] => none
  | c :: rest =>
    match operatorAt? (c :: rest) with
    | some (op, after) => some ([], op, after)
    | none => (cut? rest).map fun (before, op, after) ↦ (c :: before, op, after)

def literalOf (op : Operator) (text : String) : Value :=
  if op = .pattern then .string text else Value.ofTyped text

/-- The condition that a text writes. -/
def parse (text : String) : Except TextError Condition :=
  match cut? text.toList with
  | none => .error (.noOperator text)
  | some (before, op, after) =>
    match Key.parse? (String.ofList (Text.trimChars before)) with
    | none => .error (.invalidKey text)
    | some key => .ok ⟨key, op, literalOf op (String.ofList (Text.trimChars after))⟩

end Condition

namespace Filter

/-- Where a condition joins a filter: the group at the root if that asks for all, or the one group
of that kind which is all there is in an `OR` at the root. -/
def conjunctionPath? : Filter → Option (List Nat)
  | group .and _ => some []
  | group .or [group .and _] => some [0]
  | _ => none

/-- The filter narrowed by another one, which joins its conjunction if it has one. -/
def narrow (filter condition : Filter) : Filter :=
  match (conjunctionPath? filter).bind fun path ↦ pushAt? condition path filter with
  | some narrowed => narrowed
  | none => all [filter, condition]

end Filter

end RunQuery

import RunQuery.Filter.Comparison
import RunQuery.Run.Basic

/-!
# Which runs pass a filter

The meaning of a filter tree, by its structure. What a pattern matches is a parameter: a *pattern
language* gives the test that a text writes, if it writes one.

Everything that cannot be made out fails: data that is no filter, a condition on a section that no
run has, a pattern that is null or none of the language, and the search of a pattern in a field that
is null or absent.
-/

namespace RunQuery

/-- The test that a text writes, for each text that writes one. -/
abbrev PatternLanguage := String → Option (String → Bool)

namespace Condition

/-- Does a pattern occur in the text of a field? -/
def searches (test : String → Bool) (field : Option Value) : Bool :=
  match field with
  | none => false
  | some value => !value.isNull && test (Value.display value)

def test? (language : PatternLanguage) (c : Condition) : Option (String → Bool) :=
  if c.literal.isNull then none else language (Value.display c.literal)

/-- Does the condition hold of a run? -/
def holds (language : PatternLanguage) (c : Condition) (run : Run) : Bool :=
  if !c.key.inSection.isKnown then false
  else if c.op = .pattern then
    match c.test? language with
    | none => false
    | some test => searches test (run.value? c.key)
  else c.op.compares (run.value? c.key) c.literal

end Condition

namespace Filter

mutual

/-- Does the run pass the filter? -/
def passes (language : PatternLanguage) (run : Run) : Filter → Bool
  | group .and filters => passesAll language run filters
  | group .or filters => passesAny language run filters
  | leaf c => c.holds language run
  | invalid _ => false

def passesAll (language : PatternLanguage) (run : Run) : List Filter → Bool
  | [] => true
  | filter :: filters => passes language run filter && passesAll language run filters

def passesAny (language : PatternLanguage) (run : Run) : List Filter → Bool
  | [] => false
  | filter :: filters => passes language run filter || passesAny language run filters

end

end Filter

end RunQuery

import RunQuery.Filter.Evaluation
import RunQuery.Pattern.Reader
import RunQuery.Unicode.Class

/-!
# Compiled filters

A filter made ready for many runs: patterns are read once, and whatever cannot be made out has
become a node that no run passes.

There are two ways to compile. The lenient one takes every filter. The strict one refuses a filter
in which something was not understood, and names the first such node from the left; a condition on
an unknown section is understood, and merely fails.
-/

namespace RunQuery

/-- A filter ready for use. -/
inductive CompiledFilter where
  /-- All of them have to hold. -/
  | all (filters : List CompiledFilter)
  /-- One of them has to hold. -/
  | any (filters : List CompiledFilter)
  /-- A comparison. -/
  | compare (c : Condition)
  /-- The search of a pattern in a field. -/
  | search (key : Key) (test : String → Bool)
  /-- Nothing passes. -/
  | never

namespace CompiledFilter

/-- What the strict compiler refuses. -/
inductive Defect where
  /-- A text that is no pattern. -/
  | pattern (text : String)
  /-- Data that is no filter. -/
  | shape (data : Json)

def Defect.message : Defect → String
  | .pattern text => "Invalid pattern " ++ Text.quoted text
  | .shape data => "Invalid filter shape: " ++ Json.compact data

/-! ## Compilation -/

/-- Compile a condition; what is refused becomes a defect. -/
def ofCondition (language : PatternLanguage) (c : Condition) : Except Defect CompiledFilter :=
  if !c.key.inSection.isKnown then .ok never
  else if c.op = .pattern then
    -- the text of null is empty, and an empty pattern would be found everywhere
    if c.literal.isNull then .ok never
    else
      match language (Value.display c.literal) with
      | none => .error (.pattern (Value.display c.literal))
      | some test => .ok (search c.key test)
  else .ok (compare c)

def group : Junction → List CompiledFilter → CompiledFilter
  | .and => all
  | .or => any

mutual

/-- Compile every filter; a defect becomes a node that nothing passes. -/
def compile (language : PatternLanguage) : Filter → CompiledFilter
  | .group op filters => group op (compileList language filters)
  | .leaf c =>
    match ofCondition language c with
    | .ok filter => filter
    | .error _ => never
  | .invalid _ => never

/-- Compile every filter of a list. -/
def compileList (language : PatternLanguage) : List Filter → List CompiledFilter
  | [] => []
  | filter :: filters => compile language filter :: compileList language filters

end

mutual

/-- Compile a filter without defects, or name the first one from the left. -/
def compileStrict (language : PatternLanguage) : Filter → Except Defect CompiledFilter
  | .group op filters => (compileStrictList language filters).map (group op)
  | .leaf c => ofCondition language c
  | .invalid data => .error (.shape data)

/-- Compile a list of filters without defects, or name the first one from the left. -/
def compileStrictList (language : PatternLanguage) :
    List Filter → Except Defect (List CompiledFilter)
  | [] => .ok []
  | filter :: filters =>
    match compileStrict language filter with
    | .error defect => .error defect
    | .ok first => (compileStrictList language filters).map (first :: ·)

end

/-! ## Use -/

mutual

/-- Does the run pass? -/
def passes (run : Run) : CompiledFilter → Bool
  | all filters => passesAll run filters
  | any filters => passesAny run filters
  | compare c => c.op.compares (run.value? c.key) c.literal
  | search key test => Condition.searches test (run.value? key)
  | never => false

def passesAll (run : Run) : List CompiledFilter → Bool
  | [] => true
  | filter :: filters => passes run filter && passesAll run filters

def passesAny (run : Run) : List CompiledFilter → Bool
  | [] => false
  | filter :: filters => passes run filter || passesAny run filters

end

/-- The runs that pass, in their order. -/
def select (filter : CompiledFilter) (runs : List Run) : List Run :=
  runs.filter fun run ↦ filter.passes run

end CompiledFilter

namespace Filter

/-- The filter ready for use, patterns read as regular expressions. -/
def compiled (filter : Filter) : CompiledFilter := CompiledFilter.compile Pattern.test? filter

/-- The runs that pass the filter, in their order. -/
def select (filter : Filter) (runs : List Run) : List Run := filter.compiled.select runs

end Filter

end RunQuery

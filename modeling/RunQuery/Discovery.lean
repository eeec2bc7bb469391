import RunQuery.Grouping

/-!
# Discovery of keys and columns

The keys that a set of runs offers for filtering, sorting and plotting, and the columns of its
table.

A configuration or metrics key gets a column of its own if its values are varied enough: it is
ranked by how many distinct texts its scalar values have, null not counted, and keys of equal rank
come in the order of their names. A section may instead list its columns.
-/

namespace RunQuery

/-! ## Keys -/

/-- The keys that one section offers. -/
structure KeySuggestion where
  /-- The section. -/
  inSection : Section
  /-- Its keys. -/
  keys : List Key

/-- An entry of the choice of a chart's axis. -/
structure AxisOption where
  /-- The text of a key. -/
  text : String
  deriving DecidableEq

namespace Discovery

def distinctNames (names : List String) : List String :=
  (Dict.ofList (names.map fun name ↦ (name, ()))).keys

/-- The names that a run has in a section. Metrics that are no scalars cannot be plotted. -/
def namesIn (area : Section) (run : Run) : List String :=
  match area with
  | .tags => run.tags
  | .config => run.config.keys
  | .summary => (run.summary.toList.filter fun e ↦ e.2.isScalar).map Prod.fst
  | .run | .unknown _ => []

/-- The keys of a section in a set of runs. The built-in fields are the same for all. -/
def sectionKeys (area : Section) (runs : List Run) : List Key :=
  if area = .run then Run.builtInFields.map (Key.mk .run)
  else (distinctNames (runs.flatMap (namesIn area))).map (Key.mk area)

/-- The sections whose keys are offered, in order. -/
def sections : List Section := [.run, .tags, .config, .summary]

/-- The keys that a set of runs offers. -/
def suggestions (runs : List Run) : List KeySuggestion :=
  sections.map fun area ↦ ⟨area, sectionKeys area runs⟩

/-- The axes that can be chosen, one for each key that is offered. -/
def axisOptions (suggestions : List KeySuggestion) : List AxisOption :=
  suggestions.flatMap fun s ↦ s.keys.map fun key ↦ ⟨key.text⟩

/-! ## Columns -/

/-- The values that a run has in a section which can have columns. -/
def valuesIn (area : Section) (run : Run) : List (String × Value) :=
  match area with
  | .config => run.config.toList
  | .summary => run.summary.toList
  | .run | .tags | .unknown _ => []

/-- Note one more scalar value of a name: null tells that the name occurs, every other value adds
its text. -/
def noteText (texts : Dict String (List String)) (entry : String × Value) :
    Dict String (List String) :=
  let seen := (texts.get? entry.1).getD []
  if !entry.2.isScalar then texts
  else if entry.2.isNull then texts.insert entry.1 seen
  else
    let text := Value.display entry.2
    texts.insert entry.1 (if seen.contains text then seen else text :: seen)

/-- The distinct texts of the scalar values of each name. -/
def distinctTexts (area : Section) (runs : List Run) : Dict String (List String) :=
  (runs.flatMap (valuesIn area)).foldl noteText Dict.empty

/-- Does the first of two counted names come first, the more varied one before the other? -/
def rankedBefore (a b : String × Nat) : Bool :=
  b.2 < a.2 || (a.2 == b.2 && (compare a.1 b.1).isLE)

/-- The texts of the keys of a section with at least `least` distinct values, the most varied
first. -/
def variedKeys (area : Section) (least : Nat) (runs : List Run) : List String :=
  let counted := (distinctTexts area runs).toList.map fun e ↦ (e.1, e.2.length)
  ((counted.filter fun e ↦ least ≤ e.2).mergeSort rankedBefore).map fun e ↦
    (Key.mk area e.1).text

end Discovery

/-- How the columns of one section are chosen. -/
structure SectionColumns where
  /-- By variety, unless this says otherwise. -/
  auto : Option Bool
  /-- The columns, where they are not chosen by variety. -/
  columns : List String
  deriving DecidableEq

/-- How the columns of a table are chosen. -/
structure ColumnChoice where
  /-- Those of the configuration. -/
  config : Option SectionColumns
  /-- Those of the metrics. -/
  summary : Option SectionColumns
  deriving DecidableEq

/-- The thresholds for columns that are chosen by variety. -/
structure ColumnThresholds where
  /-- The distinct values that a configuration key needs. -/
  configMinUnique : Nat
  /-- The distinct values that a metrics key needs. -/
  summaryMinUnique : Nat
  /-- The greatest number of columns for one section. -/
  maxColumns : Option Nat
  deriving DecidableEq

namespace SectionColumns

/-- The columns by variety. -/
def default : SectionColumns := ⟨none, []⟩

def isListed (c : SectionColumns) : Bool := !c.auto.getD true

end SectionColumns

namespace ColumnChoice

/-- All columns by variety. -/
def default : ColumnChoice := ⟨none, none⟩

end ColumnChoice

namespace ColumnThresholds

/-- Two values for the configuration and one for the metrics, and no limit. -/
def default : ColumnThresholds := ⟨2, 1, none⟩

end ColumnThresholds

namespace Discovery

/-- The text of the key that a listed column means in a section: the key that it names if that lies
in the section, and else the name itself. -/
def qualified (area : Section) (column : String) : String :=
  match Key.parse? column with
  | some key => if key.inSection = area then key.text else (Key.mk area column).text
  | none => (Key.mk area column).text

def sectionColumns (area : Section) (choice : Option SectionColumns) (least : Nat)
    (limit : Option Nat) (runs : List Run) : List String :=
  let byVariety :=
    let varied := variedKeys area least runs
    limit.elim varied varied.take
  match choice with
  | some c => if c.isListed then c.columns.map (qualified area) else byVariety
  | none => byVariety

/-- The columns of the table: the fixed ones, one for subgroups where there are any, and those of
the configuration and of the metrics. -/
def columnNames (runs : List Run) (grouping : Option Grouping) (choice : ColumnChoice)
    (thresholds : ColumnThresholds) : List String :=
  ["Select", "Description"] ++
    (if grouping.any (·.subgroup.isSome) then ["Subgroup"] else []) ++ ["Ran", "Runtime"] ++
    sectionColumns .config choice.config thresholds.configMinUnique thresholds.maxColumns runs ++
    sectionColumns .summary choice.summary thresholds.summaryMinUnique thresholds.maxColumns runs

end Discovery

end RunQuery

import RunQuery.Filter.Compiled
import RunQuery.Merge
import RunQuery.Query.Wire

/-!
# The query pipeline

A pipeline keeps one set of runs and answers requests about it. A request brings payloads and a
query. The payloads are merged into the set, and the query is answered from the set alone: filter,
select, sort, find keys and columns, make rows.

A request without a query is refused, and one whose query is disabled gets the empty response;
neither touches the set of runs. A query may say that the set has not changed, and then its payloads
do not count. A request may also bring a set of runs, which takes the place of the pipeline's own.
-/

namespace RunQuery

/-- A request to a pipeline. -/
structure Request where
  /-- The set of runs to use in place of the pipeline's own. -/
  baseRuns : Option (List Run)
  /-- The payloads of the request before. -/
  previousRawBatch : List Json
  /-- The payloads. -/
  rawBatch : List Json
  /-- The question. -/
  query : Option Query

namespace Request

def empty : Request := ⟨none, [], [], none⟩

instance : Inhabited Request := ⟨empty⟩

/-- The request that asks a question. -/
def ofQuery (query : Query) : Request := { empty with query := some query }

end Request

/-- The answer to a query. -/
structure Response where
  /-- The set of runs. -/
  base : List Run
  /-- The runs that pass the filter, in order. -/
  filtered : List Run
  /-- The same by name. -/
  filteredByName : Dict String Run
  /-- The highlighted ones among them, in order. -/
  selected : List Run
  /-- The ids of the highlighted ones, by name. -/
  selectedIds : Dict String String
  /-- The keys that the set offers. -/
  keys : List KeySuggestion
  /-- The axes that can be chosen. -/
  axisOptions : List AxisOption
  /-- The columns of the table. -/
  columnNames : List String
  /-- The rows of the page. -/
  rows : List Row
  /-- The number of rows without the limit of the page. -/
  totalRows : Nat

namespace Response

def empty : Response := ⟨[], [], Dict.empty, [], Dict.empty, [], [], [], [], 0⟩

instance : Inhabited Response := ⟨empty⟩

end Response

/-- Why a request is not answered. -/
inductive RequestError where
  /-- It has no query. -/
  | missingQuery
  /-- The worker has stopped. -/
  | workerClosed
  deriving DecidableEq

namespace RequestError

/-- The cause in words. -/
def message : RequestError → String
  | missingQuery => "Request is missing a query"
  | workerClosed => "Worker is closed"

end RequestError

namespace Query

/-- The answer to a query about a set of runs. -/
def answer (query : Query) (config : EngineConfig) (base : List Run) : Response :=
  let passing := query.filters.select base
  -- found before sorting, since the order may put the highlighted runs first
  let selectedIds := (query.selections.select passing).map Run.id
  let filtered := query.sort.sort selectedIds passing
  let selected := filtered.filter fun run ↦ selectedIds.contains run.id
  let keys := Discovery.suggestions base
  let rows := Grouping.rows query.grouping query.level filtered
  let limit := query.page.or config.defaultPageSize
  { base
    filtered
    filteredByName := Dict.ofList (filtered.map fun run ↦ (run.name, run))
    selected
    selectedIds := Dict.ofList (selected.map fun run ↦ (run.name, run.id))
    keys
    axisOptions := Discovery.axisOptions keys
    columnNames :=
      Discovery.columnNames filtered query.grouping query.columns config.columnThresholds
    rows := limit.elim rows rows.take
    totalRows := rows.length }

end Query

/-- A set of runs and the settings by which it is queried. -/
structure Pipeline where
  /-- The settings. -/
  config : EngineConfig
  /-- The set of runs. -/
  runs : List Run

namespace Pipeline

/-- A pipeline without runs. -/
def new (config : EngineConfig) : Pipeline := ⟨config, []⟩

/-- The set of runs that a request leads to, its query being enabled. -/
def runsAfter (p : Pipeline) (request : Request) (query : Query) : List Run :=
  let base := request.baseRuns.getD p.runs
  if query.reuseBase then base
  else (Merge.merge base request.previousRawBatch request.rawBatch).1

/-- Answer a request. -/
def handle (p : Pipeline) (request : Request) : Except RequestError Response × Pipeline :=
  match request.query with
  | none => (.error .missingQuery, p)
  | some query =>
    if query.disabled then (.ok Response.empty, p)
    else
      let runs := p.runsAfter request query
      (.ok (query.answer p.config runs), { p with runs })

/-- Answer requests one after another. -/
def handleAll : Pipeline → List Request → List (Except RequestError Response) × Pipeline
  | p, [] => ([], p)
  | p, request :: requests =>
    let (reply, p) := p.handle request
    let (replies, p) := p.handleAll requests
    (reply :: replies, p)

end Pipeline

/-! ## As data -/

namespace Request

def runsToJson (runs : List Run) : Json := .array (runs.map Run.toJson)

def toJson (request : Request) : Json :=
  .object [
    ("baseRuns", Json.ofOption runsToJson request.baseRuns),
    ("previousRawBatch", .array request.previousRawBatch),
    ("rawBatch", .array request.rawBatch),
    ("query", Json.ofOption Query.toJson request.query)]

/-- The payloads that a document gives. -/
def readBatch? {δ : Type} [Document δ] (d : δ) : Option (List Json) :=
  Document.list? Document.toJson? d

def read? {δ : Type} [Document δ] (d : δ) : Option Request :=
  match Document.fields? [("baseRuns", .optional), ("previousRawBatch", .optional),
      ("rawBatch", .optional), ("query", .optional)] d with
  | some [baseRuns, previousRawBatch, rawBatch, query] => do
    return {
      baseRuns := ← Document.orAbsent? (Document.list? Run.read?) baseRuns
      previousRawBatch := ← Document.orElse? readBatch? [] previousRawBatch
      rawBatch := ← Document.orElse? readBatch? [] rawBatch
      query := ← Document.orAbsent? Query.read? query }
  | _ => none

end Request

namespace KeySuggestion

def toJson (s : KeySuggestion) : Json :=
  .object [("section", .string s.inSection.name), ("suggestions", .array (s.keys.map Key.toJson))]

end KeySuggestion

namespace AxisOption

def toJson (a : AxisOption) : Json :=
  .object [("key", .string a.text), ("value", .string a.text), ("text", .string a.text)]

end AxisOption

namespace Response

def toMembers (r : Response) : List (String × Json) :=
  [("base", Request.runsToJson r.base),
   ("filtered", Request.runsToJson r.filtered),
   ("filteredRunsById", .object (r.filteredByName.toList.map fun e ↦ (e.1, e.2.toJson))),
   ("selectedRuns", Request.runsToJson r.selected),
   ("selectedRunsById", .object (r.selectedIds.toList.map fun e ↦ (e.1, .string e.2))),
   ("keys", .array (r.keys.map KeySuggestion.toJson)),
   ("axisOptions", .array (r.axisOptions.map AxisOption.toJson)),
   ("columnNames", Json.ofTexts r.columnNames),
   ("rows", .array (r.rows.map Row.toJson)),
   ("totalRows", Json.ofCount r.totalRows)]

def toJson (r : Response) : Json := .object r.toMembers

end Response

end RunQuery

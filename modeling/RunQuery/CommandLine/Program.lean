import RunQuery.CommandLine.Arguments
import RunQuery.ConditionText
import RunQuery.InputFile
import RunQuery.Json.Printer
import RunQuery.Settings.Basic
import RunQuery.Worker.Basic

/-!
# The program

What a run of the program prints and how it ends, given its arguments and its surroundings.

Requests are answered by one worker, in order. A request that names no previous batch takes the one
of the request before it for its own, so that payloads which come again are not normalized again.
The first request that is refused ends the run; what has been printed before stays.
-/

namespace RunQuery

/-- What a run of the program prints, and how it ends. -/
structure Outcome where
  /-- The exit code. -/
  code : Nat
  /-- The texts that are printed, each with a line end after it. -/
  output : List String
  /-- The mistake that ended the run. -/
  complaint : Option String
  deriving DecidableEq

namespace Outcome

/-- The end of a run without a mistake. -/
def printed (output : List String) : Outcome := ⟨0, output, none⟩

/-- The end of a run by a mistake. -/
def failed (output : List String) (complaint : String) : Outcome := ⟨1, output, some complaint⟩

/-- The end of a run that breaks. -/
def broken : Outcome := ⟨101, [], none⟩

end Outcome

namespace CommandLine

def versionText : String := "runboard 0.1.0"

def helpText : String :=
  "Usage: runboard [--config FILE] [--compact] COMMAND\n\n" ++
  "  query --runs FILE [--query FILE | --filter-url LINK] [--where CONDITION]...\n" ++
  "        [--sort NAME [--desc]] [--page COUNT]\n" ++
  "  replay [--latest-only] FILE\n" ++
  "  filter encode FILE\n" ++
  "  filter decode LINK"

/-- The text of data. -/
def render (pretty : Bool) (json : Json) : String :=
  if pretty then Json.pretty json else Json.compact json

/-! ## Requests -/

/-- Requests with the batches that they take from the requests before them. -/
def inheritBatches : (previous : List Json) → List Request → List Request
  | _, [] => []
  | previous, request :: requests =>
    { request with
      previousRawBatch :=
        if request.previousRawBatch.isEmpty then previous else request.previousRawBatch } ::
      inheritBatches request.rawBatch requests

/-- The responses before the first refusal, and the refusal. -/
def untilRefusal : List Reply → List TaggedResponse × Option RequestError
  | [] => ([], none)
  | .error e :: _ => ([], some e)
  | .ok t :: replies =>
    let (responses, refusal) := untilRefusal replies
    (t :: responses, refusal)

def newest? (responses : List TaggedResponse) : Option Response :=
  (responses.foldl (fun latest t ↦ (latest.offer t).2) LatestResponse.none).response

/-- Can a thread have that name? A zero character cannot stand in it. -/
def canName (thread : String) : Bool := !thread.toList.contains '\x00'

/-- Answer requests one after another. Without a thread to work on the program breaks. -/
def answerAll (config : EngineConfig) (latestOnly pretty : Bool) (requests : List Request) :
    Outcome :=
  let replies := ((Worker.new config).serveAll (inheritBatches [] requests)).1
  let (responses, refusal) := untilRefusal replies
  let output :=
    if latestOnly then
      -- the newest response is printed at the end, which a refusal does not reach
      if refusal.isSome then []
      else ((newest? responses).map fun r ↦ render pretty r.toJson).toList
    else responses.map fun t ↦ render pretty t.toJson
  if !canName config.workerThreadName then .broken
  else
    match refusal with
    | some e => .failed output e.message
    | none => .printed output

/-! ## Queries -/

/-- Narrow a query by conditions, up to the first one that is a mistake. -/
def narrowBy (query : Query) : List String → Except Condition.TextError Query
  | [] => .ok query
  | text :: texts =>
    match Condition.parse text with
    | .error e => .error e
    | .ok c => narrowBy { query with filters := query.filters.narrow (.leaf c) } texts

/-- A query in the order and of the size that options ask for. -/
def arrange (options : QueryOptions) (query : Query) : Query :=
  { query with
    sort := (options.sort.map fun name ↦ ⟨some name, !options.descending⟩).getD query.sort
    page := options.page.or query.page }

section

variable {m : Type → Type} [Monad m] (world : Surroundings m)

def startQuery : QuerySource → m (Except String Query)
  | .everything => return .ok Query.default
  | .file path => return (← InputFile.loadQuery world path).mapError InputFault.message
  | .link text =>
    return ((Filter.ofLink text).map Query.ofFilter).mapError Filter.LinkError.message

def runQuery (settings : Settings) (pretty : Bool) (options : QueryOptions) : m Outcome := do
  match ← startQuery world options.source with
  | .error complaint => return .failed [] complaint
  | .ok start =>
    match narrowBy start options.conditions with
    | .error e => return .failed [] e.message
    | .ok query =>
      match ← InputFile.loadBatch world options.runs with
      | .error fault => return .failed [] fault.message
      | .ok batch =>
        let request := { Request.ofQuery (arrange options query) with rawBatch := batch }
        return answerAll settings.engine false pretty [request]

/-- Carry out a command. -/
def execute (settings : Settings) (pretty : Bool) : Command → m Outcome
  | .query options => runQuery world settings pretty options
  | .replay file latestOnly => do
    match ← InputFile.loadRequests world file with
    | .error fault => return .failed [] fault.message
    | .ok requests => return answerAll settings.engine latestOnly pretty requests
  | .encode file => do
    match ← InputFile.loadFilter world file with
    | .error fault => return .failed [] fault.message
    | .ok filter => return .printed [filter.toLink]
  | .decode link =>
    match Filter.ofLink link with
    | .error e => return .failed [] e.message
    | .ok filter => return .printed [render pretty filter.toJson]

def run (words : List String) : m Outcome := do
  match ofWords words with
  | .error .usage => return ⟨2, [], none⟩
  | .error .help => return .printed [helpText]
  | .error .version => return .printed [versionText]
  | .ok (options, command) =>
    match ← Settings.load world options.config with
    | .error failure =>
      return match failure.message? with
        | some complaint => .failed [] complaint
        | none => .broken
    | .ok settings => execute world settings (settings.pretty && !options.compact) command

end

end CommandLine

end RunQuery

import RunQuery.Json.Lenient
import RunQuery.Pipeline
import RunQuery.Surroundings
import RunQuery.Yaml.Place

/-!
# Input files

Batches of payloads, queries, requests and filters in files. A file is in YAML if its name says so,
and in JSON otherwise. Only what a file as a whole must be is checked here; payloads are looked at
where they are merged.
-/

namespace RunQuery

/-- What is wrong with an input file. -/
inductive InputFault where
  /-- There is no text in it, or no such file. -/
  | unreadable (path : String)
  /-- It does not say in JSON what it should. -/
  | json (path : String)
  /-- It does not say in YAML what it should. -/
  | yaml (path : String)
  /-- It is an object without a list of runs. -/
  | noRuns (path : String)
  /-- It is neither a list nor an object. -/
  | noBatch (path : String)
  deriving DecidableEq

def InputFault.message : InputFault → String
  | .unreadable path => "Failed to read " ++ path
  | .json path => "Invalid JSON in " ++ path
  | .yaml path => "Invalid YAML in " ++ path
  | .noRuns path => path ++ " has no `runs` array"
  | .noBatch path => path ++ " is not a run batch"

namespace InputFile

/-- The batch of payloads that data gives: a list, or an object with a list of runs. -/
def batchOf (path : String) : Json → Except InputFault (List Json)
  | .array items => .ok items
  | .object members =>
    match lookupEntry "runs" members with
    | some (.array items) => .ok items
    | _ => .error (.noRuns path)
  | _ => .error (.noBatch path)

/-- The requests that data gives: a list of them, or else a single one. -/
def requestsOf? {δ : Type} [Document δ] (d : δ) : Option (List Request) :=
  (Document.list? Request.read? d).or ((Request.read? d).map fun request ↦ [request])

section

variable {m : Type → Type} [Monad m] (world : Surroundings m)

/-- What the text of a file gives, by the reader for its format. -/
def load {α : Type} (ofYaml? ofJson? : String → Option α) (path : String) :
    m (Except InputFault α) := do
  match ← world.readText? path with
  | none => return .error (.unreadable path)
  | some text =>
    if Text.Path.isYaml path then
      return match ofYaml? text with
        | some a => .ok a
        | none => .error (.yaml path)
    else
      return match ofJson? text with
        | some a => .ok a
        | none => .error (.json path)

def loadData (path : String) : m (Except InputFault Json) :=
  load world (fun text ↦ (Yaml.Place.read? text).bind Document.toJson?) Json.parse path

def loadFilter (path : String) : m (Except InputFault Filter) :=
  return (← loadData world path).map Filter.ofJson

def loadBatch (path : String) : m (Except InputFault (List Json)) :=
  return (← loadData world path).bind (batchOf path)

def loadQuery (path : String) : m (Except InputFault Query) :=
  load world (fun text ↦ (Yaml.Place.read? text).bind Query.read?)
    (fun text ↦ (Json.readContent text).bind Query.read?) path

def loadRequests (path : String) : m (Except InputFault (List Request)) :=
  load world
    (fun text ↦ ((Yaml.Place.read? text).bind fun place ↦ place.content? false).bind requestsOf?)
    (fun text ↦ (Json.read text).bind requestsOf?) path

end

end InputFile

end RunQuery

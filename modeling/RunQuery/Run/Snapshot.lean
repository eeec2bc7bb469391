import RunQuery.Run.Basic
import RunQuery.Timestamp

/-!
# Snapshots of runs

A run as JSON data, and its reading back. Metrics that are not finite are written as words and are
read as numbers again; in the configuration such a word stays a text.
-/

namespace RunQuery

namespace User

/-- The owner as JSON data. -/
def toJson (user : User) : Json :=
  .object [("name", .string user.name), ("photoUrl", .string user.photoUrl)]

/-- The owner that a document gives. -/
def read? {δ : Type} [Document δ] (d : δ) : Option User :=
  match Document.fields? [("name", .required), ("photoUrl", .required)] d with
  | some [some name, some photoUrl] => do
    return ⟨← Document.text? name, ← Document.text? photoUrl⟩
  | _ => none

end User

namespace RunState

/-- The state that a document names. -/
def read? {δ : Type} [Document δ] (d : δ) : Option RunState := Document.case? all name d

end RunState

namespace Run

/-- The instant that a document gives in the standard notation, or its absence. -/
def readInstant? {δ : Type} [Document δ] (d : δ) : Option (Option Instant) :=
  Document.orNull? (fun d ↦ (Document.text? d).bind fun text ↦ Timestamp.standard? text.toList) d

def valuesToJson (values : Dict String Value) : Json :=
  .object (values.toList.map fun (name, value) ↦ (name, value.toJson))

def readValues? {δ : Type} [Document δ] (d : δ) : Option (Dict String Value) := do
  let members ← Document.members? d
  let entries ← members.mapM fun (name, v) ↦ do return (name, (← Document.value? v).canonical)
  return Dict.ofList entries

def toMembers (run : Run) : List (String × Json) :=
  [("id", .string run.id),
   ("name", .string run.name),
   ("state", .string run.state.name),
   ("description", .string run.description),
   ("user", run.user.toJson),
   ("host", .string run.host),
   ("createdAt", Json.ofOption (fun i ↦ .string i.text) run.createdAt)] ++
  (run.heartbeatAt.map fun i ↦ ("heartbeatAt", Tree.string i.text)).toList ++
  [("tags", Json.ofTexts run.tags),
   ("config", valuesToJson run.config),
   ("summary", valuesToJson run.summary)]

def toJson (run : Run) : Json := .object run.toMembers

def snapshotFields : List (String × Document.Presence) :=
  [("id", .required), ("name", .required), ("state", .required), ("description", .required),
   ("user", .required), ("host", .required), ("createdAt", .optional), ("heartbeatAt", .optional),
   ("tags", .required), ("config", .required), ("summary", .required)]

/-- The run that a snapshot records. -/
def read? {δ : Type} [Document δ] (d : δ) : Option Run :=
  match Document.fields? snapshotFields d with
  | some [some id, some name, some state, some description, some user, some host, createdAt,
      heartbeatAt, some tags, some config, some summary] => do
    return {
      id := ← Document.text? id
      name := ← Document.text? name
      state := ← RunState.read? state
      description := ← Document.text? description
      user := ← User.read? user
      host := ← Document.text? host
      -- missing and null are alike here
      createdAt := ← Document.orElse? readInstant? none createdAt
      heartbeatAt := ← Document.orElse? readInstant? none heartbeatAt
      tags := ← Document.list? Document.text? tags
      config := ← readValues? config
      summary := (← readValues? summary).mapValues Value.restoreNonFinite }
  | _ => none

end Run

end RunQuery

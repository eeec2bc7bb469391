import RunQuery.Instant
import RunQuery.Key

/-!
# Runs

The record of one execution of an experiment, and the look-up of a field in it by key.

A field may be *absent*, when the run has nothing under that name, or *null*, when it has something
that could not be made out. Tags are never absent: every tag is a truth value of every run.
-/

namespace RunQuery

/-- How far a run has come. -/
inductive RunState where
  /-- It is running. -/
  | running
  /-- It has come to its end. -/
  | finished
  /-- It was stopped. -/
  | killed
  /-- It broke down. -/
  | crashed
  /-- It reported a failure. -/
  | failed
  /-- Not known. -/
  | unknown
  deriving DecidableEq, Repr, Inhabited

namespace RunState

def all : List RunState := [running, finished, killed, crashed, failed, unknown]

def name : RunState → String
  | running => "running"
  | finished => "finished"
  | killed => "killed"
  | crashed => "crashed"
  | failed => "failed"
  | unknown => "unknown"

def ofName? (text : String) : Option RunState := all.find? (·.name == text)

/-- The state that a payload names; any other word counts as not known. -/
def ofPayload (text : String) : RunState := (ofName? text).getD unknown

end RunState

/-- The owner of a run. -/
structure User where
  /-- The login name. -/
  name : String
  /-- Where the picture is. -/
  photoUrl : String
  deriving DecidableEq, Inhabited

/-- One execution of an experiment. -/
structure Run where
  /-- The identity. -/
  id : String
  /-- The name that the system gave. -/
  name : String
  /-- How far it has come. -/
  state : RunState
  /-- The name that the owner gave, or the empty text. -/
  description : String
  /-- The owner. -/
  user : User
  /-- The machine. -/
  host : String
  /-- When it began. -/
  createdAt : Option Instant
  /-- When it was last heard of. -/
  heartbeatAt : Option Instant
  /-- The tags, in the order in which they were given. -/
  tags : List String
  /-- The configuration, by dotted path. -/
  config : Dict String Value
  /-- The metrics. -/
  summary : Dict String Value
  deriving Inhabited

namespace Run

/-- The name that is shown: the description, or the name where there is none. -/
def displayName (run : Run) : String :=
  if run.description.isEmpty then run.name else run.description

/-- The seconds between the beginning and the last sign of life, to the millisecond. -/
def runtime? (run : Run) : Option Double := do
  let created ← run.createdAt
  let heartbeat ← run.heartbeatAt
  return (Double.ofInt (heartbeat.millisSince created)).divNat 1000

def hasTag (run : Run) (tag : String) : Bool := run.tags.contains tag

/-- The built-in fields that are offered for filtering and sorting. -/
def builtInFields : List String :=
  ["name", "displayName", "state", "description", "host", "username", "createdAt", "heartbeatAt",
   "runtime"]

def builtIn? (run : Run) (name : String) : Option Value :=
  match name with
  | "id" => some (.string run.id)
  | "name" => some (.string run.name)
  | "displayName" => some (.string run.displayName)
  | "state" => some (.string run.state.name)
  | "description" => some (.string run.description)
  | "host" => some (.string run.host)
  | "username" => some (.string run.user.name)
  | "userPhotoUrl" => some (.string run.user.photoUrl)
  | "createdAt" => run.createdAt.map fun i ↦ .string i.text
  | "heartbeatAt" => run.heartbeatAt.map fun i ↦ .string i.text
  | "runtime" => run.runtime?.map .number
  | _ => none

/-- The value of a field; `none` where it is absent. -/
def value? (run : Run) (key : Key) : Option Value :=
  match key.inSection with
  | .run => run.builtIn? key.name
  | .config => run.config.get? key.name
  | .summary => run.summary.get? key.name
  | .tags => some (.bool (run.hasTag key.name))
  | .unknown _ => none

end Run

end RunQuery

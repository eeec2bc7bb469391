import RunQuery.Json.Extended
import RunQuery.Run.Basic
import RunQuery.Timestamp

/-!
# Runs from payloads

A payload is what a client delivers about one run: JSON data of which nothing can be taken for
granted. The only payload that is no run is one without a name. Every other field falls back to a
default when it is missing or not of its type.

## Configuration

The configuration is an object whose entries wrap their values as `{"value": …}`. Wrapped objects
are *flattened*: each value in them that is not itself an object with members stands under its
dotted path. An entry without a wrapper is null.

Configuration and metrics may also be delivered as a JSON text, in which numbers need not be
finite.
-/

namespace RunQuery

namespace Value

mutual

/-- Write a value under a path, or, if it is an object with members, write each of them under the
path extended by its name. -/
def flattenInto (out : Dict String Value) (path : String) : Value → Dict String Value
  | .object (m :: members) => flattenMembers out path (m :: members)
  | .object [] => out.insert path (.object [])
  | .null => out.insert path .null
  | .bool b => out.insert path (.bool b)
  | .number x => out.insert path (.number x)
  | .string s => out.insert path (.string s)
  | .array items => out.insert path (.array items)

/-- Write the members of an object, each under the path extended by its name. -/
def flattenMembers (out : Dict String Value) (path : String) :
    List (String × Value) → Dict String Value
  | [] => out
  | (name, value) :: members =>
    flattenMembers (flattenInto out (path ++ "." ++ name) value) path members

end

end Value

namespace Run

def textField? (payload : Json) (name : String) : Option String :=
  (payload.member? name).bind Tree.string?

/-- The owner that a payload gives. The login name stands under `username`, or under `name` where
there is no `username` at all. -/
def userOfPayload (user : Option Json) : User :=
  match user with
  | some (.object members) =>
    let name := ((lookupEntry "username" members).or (lookupEntry "name" members)).bind Tree.string?
    let photoUrl := (lookupEntry "photoUrl" members).bind Tree.string?
    ⟨name.getD "", photoUrl.getD ""⟩
  | _ => ⟨"", ""⟩

/-- The tags that a payload gives: a list of texts, or else none. -/
def tagsOfPayload (tags : Option Json) : List String :=
  match tags with
  | some (.array items) => (items.mapM Tree.string?).getD []
  | _ => []

/-- The value of a field that may be delivered as JSON data or as a JSON text. -/
def embedded? : Json → Option Value
  | .string text => Json.Extended.parse text
  | .null => none
  | json => some (Value.ofJson json)

def writeConfigEntry (config : Dict String Value) (entry : String × Value) : Dict String Value :=
  match entry.2.member? "value" with
  | some value => Value.flattenInto config entry.1 value
  | none => config.insert entry.1 .null

/-- The configuration that a payload gives. -/
def configOfPayload (config : Option Json) : Dict String Value :=
  match config.bind embedded? with
  | some (.object entries) => entries.foldl writeConfigEntry Dict.empty
  | _ => Dict.empty

/-- The metrics that a payload gives. -/
def summaryOfPayload (summary : Option Json) : Dict String Value :=
  match summary.bind embedded? with
  | some (.object entries) => Dict.ofList entries
  | _ => Dict.empty

def instantField? (payload : Json) (name : String) : Option Instant :=
  (textField? payload name).bind Timestamp.read?

/-- The run that a payload, in canonical form, delivers. -/
def ofPayload? (payload : Json) : Option Run := do
  let name ← textField? payload "name"
  return {
    id := (textField? payload "id").getD name
    name
    state := ((textField? payload "state").map RunState.ofPayload).getD .unknown
    description := (textField? payload "description").getD ""
    user := userOfPayload (payload.member? "user")
    host := (textField? payload "host").getD ""
    createdAt := instantField? payload "createdAt"
    heartbeatAt := instantField? payload "heartbeatAt"
    tags := tagsOfPayload (payload.member? "tags")
    config := configOfPayload (payload.member? "config")
    summary := summaryOfPayload (payload.member? "summaryMetrics") }

end Run

end RunQuery

import RunQuery.EngineConfig
import RunQuery.Settings.Entry
import RunQuery.Settings.Variables
import RunQuery.Surroundings

/-!
# Settings of the program

The settings of the engine, and how the program logs and prints. They come from a file, which may
be missing, and from environment variables, which go before the file.

A file is given by name. If there is no file of that name, the name with an extension is tried. A
file that is there under the very name but whose extension says nothing about its format counts as
missing.

Two mistakes are not reported but break the program: a setting in a file that has no name, and an
index that lies before its list.
-/

namespace RunQuery

/-- The form of log lines. -/
inductive LogFormat where
  /-- Text. -/
  | text
  /-- JSON. -/
  | json
  deriving DecidableEq, Repr

namespace LogFormat

def all : List LogFormat := [text, json]

def name : LogFormat → String
  | text => "text"
  | json => "json"

def read? {δ : Type} [Document δ] (d : δ) : Option LogFormat := Document.case? all name d

end LogFormat

/-- The settings of the program. -/
structure Settings where
  /-- The settings of the engine. -/
  engine : EngineConfig
  /-- What is logged. -/
  logLevel : String
  /-- The form of log lines. -/
  logFormat : LogFormat
  /-- Are answers printed over several lines? -/
  pretty : Bool
  deriving DecidableEq

namespace Settings

/-- The settings that hold where nothing else is said. -/
def default : Settings :=
  ⟨EngineConfig.default, "runboard_cli=info,runboard_sdk=info,runboard_runtime=info", .text, true⟩

instance : Inhabited Settings := ⟨default⟩

/-- Why settings cannot be had. -/
inductive Failure where
  /-- The file cannot be read as what its extension says. -/
  | source
  /-- A setting is not what it should be. -/
  | shape
  /-- The engine refuses its settings. -/
  | engine (defect : EngineConfig.Defect)
  /-- The program breaks. -/
  | broken
  deriving DecidableEq

/-- The cause in words, if it is reported. -/
def Failure.message? : Failure → Option String
  | .source => some "Failed to read config"
  | .shape => some "Failed to deserialize config"
  | .engine defect => some defect.message
  | .broken => none

def Failure.ofFault : FileFault → Failure
  | .malformed => .source
  | .nameless => .broken

/-! ## As data -/

def toJson (s : Settings) : Json :=
  .object [
    ("engine", s.engine.toJson),
    ("log_level", .string s.logLevel),
    ("log_format", .string s.logFormat.name),
    ("pretty", .bool s.pretty)]

/-- The settings that a document gives; what it leaves out is as by default. -/
def read? {δ : Type} [Document δ] (d : δ) : Option Settings :=
  match Document.fields? [("engine", .optional), ("log_level", .optional),
      ("log_format", .optional), ("pretty", .optional)] d with
  | some [engine, level, format, pretty] => do
    return {
      engine := ← Document.orElse? EngineConfig.read? default.engine engine
      logLevel := ← Document.orElse? Document.text? default.logLevel level
      logFormat := ← Document.orElse? LogFormat.read? default.logFormat format
      pretty := ← Document.orElse? Document.bool? default.pretty pretty }
  | _ => none

/-! ## From a file and variables -/

/-- The settings that a table and environment variables make together. -/
def ofSources (file : Table) (environment : List (String × String)) : Except Failure Settings :=
  let entries := file ++ environment.filterMap fun (name, text) ↦ ofVariable? name text
  match entries.foldlM Table.write? [] with
  | none => .error .broken
  | some table =>
    match read? (Entry.mk (.object table)) with
    | none => .error .shape
    | some settings =>
      match settings.engine.defect? with
      | some defect => .error (.engine defect)
      | none => .ok settings

/-- The table in the text of a file with the given extension; an extension that says nothing makes
an empty one. -/
def tableOf (extension : Option String) (text : String) : Except Failure Table :=
  match extension with
  | some "yaml" => (ofYamlText text).mapError Failure.ofFault
  | some "yml" => (ofYamlText text).mapError Failure.ofFault
  | some "json" => ((ofJsonText? text).map Except.ok).getD (.error .source)
  | _ => .ok []

section

variable {m : Type → Type} [Monad m]

/-- The table of the first of some files that is there. -/
def tableOfFirst (world : Surroundings m) : (extensions : List String) → (stem : String) →
    m (Except Failure Table)
  | [], _ => return .ok []
  | extension :: extensions, stem => do
    match ← world.readText? (stem ++ "." ++ extension) with
    | some text => return tableOf (some extension) text
    | none => tableOfFirst world extensions stem

def extensions : List String := ["yaml", "yml", "json"]

def tableOfFile (world : Surroundings m) (name : String) : m (Except Failure Table) := do
  match ← world.readText? name with
  | some text => return tableOf (Text.Path.extension? name) text
  | none =>
    match Text.Path.stem? name with
    | some stem => tableOfFirst world extensions stem
    | none => return .ok []

/-- The name of the file that is read if none is given. -/
def usualFile : String := "config/runboard"

/-- The file of variables that counts if no settings file is given. -/
def variablesFile : String := ".env"

def load (world : Surroundings m) (file : Option String) : m (Except Failure Settings) := do
  let given ← world.environment
  let environment ← match file with
    | some _ => pure given
    | none => do
      let text ← world.readText? variablesFile
      pure (text.elim given (Variables.afterFile given))
  return (← tableOfFile world (file.getD usualFile)).bind (ofSources · environment)

end

end Settings

end RunQuery

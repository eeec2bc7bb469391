import RunQuery.Discovery
import RunQuery.Unicode.Class

/-!
# Settings of the engine

What the engine is told once: the thresholds of columns, the page sizes, and the name of the thread
that it works on. Page sizes of zero and a blank name are refused.
-/

namespace RunQuery

/-- The settings of the engine. -/
structure EngineConfig where
  /-- The distinct values that a configuration key needs for a column. -/
  configMinUnique : Nat
  /-- The distinct values that a metrics key needs for a column. -/
  summaryMinUnique : Nat
  /-- The greatest number of columns that are chosen for one section. -/
  maxAutoColumns : Option Nat
  /-- The greatest number of rows where a query does not say. -/
  defaultPageSize : Option Nat
  /-- The greatest number of rows of a group expanded into runs. -/
  runPageSize : Nat
  /-- The greatest number of rows of a group expanded into subgroups. -/
  subgroupPageSize : Nat
  /-- The name of the worker's thread. -/
  workerThreadName : String
  deriving DecidableEq

namespace EngineConfig

/-- The settings that hold where nothing else is said. -/
def default : EngineConfig := ⟨2, 1, none, none, 1000, 500, "runboard-worker"⟩

instance : Inhabited EngineConfig := ⟨default⟩

def columnThresholds (config : EngineConfig) : ColumnThresholds :=
  ⟨config.configMinUnique, config.summaryMinUnique, config.maxAutoColumns⟩

/-- What is wrong with the settings. -/
inductive Defect where
  /-- The page size of an expansion is zero. -/
  | expandedPageSize
  /-- The default page size is zero. -/
  | defaultPageSize
  /-- The name of the thread is blank. -/
  | threadName
  deriving DecidableEq

def Defect.message : Defect → String
  | .expandedPageSize => "Configuration error: expanded page sizes must be positive"
  | .defaultPageSize => "Configuration error: default page size must be positive"
  | .threadName => "Configuration error: worker thread name must not be empty"

/-- The first thing that is wrong with the settings. -/
def defect? (config : EngineConfig) : Option Defect :=
  if config.runPageSize = 0 ∨ config.subgroupPageSize = 0 then some .expandedPageSize
  else if config.defaultPageSize = some 0 then some .defaultPageSize
  else if Text.isBlank config.workerThreadName then some .threadName
  else none

/-! ## As data -/

/-- The settings as JSON data. -/
def toJson (config : EngineConfig) : Json :=
  .object [
    ("config_min_unique", Json.ofCount config.configMinUnique),
    ("summary_min_unique", Json.ofCount config.summaryMinUnique),
    ("max_auto_columns", Json.ofOption Json.ofCount config.maxAutoColumns),
    ("default_page_size", Json.ofOption Json.ofCount config.defaultPageSize),
    ("run_page_size", Json.ofCount config.runPageSize),
    ("subgroup_page_size", Json.ofCount config.subgroupPageSize),
    ("worker_thread_name", .string config.workerThreadName)]

def fields : List (String × Document.Presence) :=
  [("config_min_unique", .optional), ("summary_min_unique", .optional),
   ("max_auto_columns", .optional), ("default_page_size", .optional),
   ("run_page_size", .optional), ("subgroup_page_size", .optional),
   ("worker_thread_name", .optional)]

/-- The settings that a document gives; what it leaves out is as by default. -/
def read? {δ : Type} [Document δ] (d : δ) : Option EngineConfig :=
  match Document.fields? fields d with
  | some [config, summary, columns, page, runs, subgroups, thread] => do
    return {
      configMinUnique := ← Document.orElse? Document.count? default.configMinUnique config
      summaryMinUnique := ← Document.orElse? Document.count? default.summaryMinUnique summary
      maxAutoColumns := ← Document.orAbsent? Document.count? columns
      defaultPageSize := ← Document.orAbsent? Document.count? page
      runPageSize := ← Document.orElse? Document.count? default.runPageSize runs
      subgroupPageSize := ← Document.orElse? Document.count? default.subgroupPageSize subgroups
      workerThreadName := ← Document.orElse? Document.text? default.workerThreadName thread }
  | _ => none

end EngineConfig

namespace ColumnThresholds

def toJson (t : ColumnThresholds) : Json :=
  .object [
    ("config_min_unique", Json.ofCount t.configMinUnique),
    ("summary_min_unique", Json.ofCount t.summaryMinUnique),
    ("max_auto_columns", Json.ofOption Json.ofCount t.maxColumns)]

/-- The thresholds that a document gives; what it leaves out is as by default. -/
def read? {δ : Type} [Document δ] (d : δ) : Option ColumnThresholds :=
  match Document.fields? [("config_min_unique", .optional), ("summary_min_unique", .optional),
      ("max_auto_columns", .optional)] d with
  | some [config, summary, columns] => do
    return {
      configMinUnique := ← Document.orElse? Document.count? default.configMinUnique config
      summaryMinUnique := ← Document.orElse? Document.count? default.summaryMinUnique summary
      maxColumns := ← Document.orAbsent? Document.count? columns }
  | _ => none

end ColumnThresholds

end RunQuery

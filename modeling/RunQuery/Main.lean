import RunQuery.CommandLine.Program

/-!
# The program as an executable

Files and environment variables of the machine, and the printing of what a run gives.
-/

namespace RunQuery.CommandLine

/-- The names of the variables that can make a setting. -/
def variableNames : List String :=
  ["RUNBOARD__LOG_LEVEL", "RUNBOARD__LOG_FORMAT", "RUNBOARD__PRETTY"] ++
    EngineConfig.fields.map fun field ↦ "RUNBOARD__ENGINE__" ++ field.1.toUpper

def readTextFile? (path : String) : IO (Option String) := do
  try
    return some (← IO.FS.readFile path)
  catch _ => return none

/-- The name and the text that one line of the list of variables gives: all before its first equals
sign, and all after it. -/
def namedText? (line : String) : Option (String × String) :=
  match line.splitOn "=" with
  | name :: part :: parts => some (name, String.intercalate "=" (part :: parts))
  | _ => none

/-- The variables of the machine. Where it keeps no list of them, those that can make a setting. -/
def machineVariables : IO (List (String × String)) := do
  match ← readTextFile? "/proc/self/environ" with
  | some list => return (list.splitOn "\x00").filterMap namedText?
  | none =>
    variableNames.filterMapM fun name ↦ do return (← IO.getEnv name).map fun text ↦ (name, text)

end RunQuery.CommandLine

open RunQuery in
/-- Run the program. -/
def main (words : List String) : IO UInt32 := do
  let world : Surroundings IO := ⟨CommandLine.readTextFile?, CommandLine.machineVariables⟩
  let outcome ← CommandLine.run world words
  for text in outcome.output do
    IO.println text
  if let some complaint := outcome.complaint then
    IO.eprintln ("Error: " ++ complaint)
  return outcome.code.toUInt32

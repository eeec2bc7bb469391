/-!
# What a program sees of its machine

Files and environment variables, as a parameter of everything that depends on them. `m` is the
monad in which they are looked at; with `Id` they are plain functions, and so is what is built on
them.

A file is known by its name only: what the name says about the contents, and which file a name means
to which an extension can still be added.
-/

namespace RunQuery

/-- What a program sees of the machine it runs on. -/
structure Surroundings (m : Type → Type) where
  /-- The text of a file, where there is a file of that name and a text in it. -/
  readText? : (path : String) → m (Option String)
  /-- The environment variables. -/
  environment : m (List (String × String))

end RunQuery

/-! ## File names -/

namespace RunQuery.Text.Path

/-- The extension of a file name: what follows its last point, where something stands before the
point. Directories in front of the name do not matter. -/
def extension? (path : String) : Option String :=
  let name := path.toList.reverse.takeWhile (· != '/')
  match name.dropWhile (· != '.') with
  | _ :: _ :: _ => some (String.ofList (name.takeWhile (· != '.')).reverse)
  | _ => none

/-- Does the name say that the file is in YAML? -/
def isYaml (path : String) : Bool :=
  extension? path == some "yaml" || extension? path == some "yml"

/-- A path, written backwards, without the slashes and single points at its end. -/
def withoutTail : List Char → List Char
  | '/' :: rest => withoutTail rest
  | ['.'] => []
  | '.' :: '/' :: rest => withoutTail rest
  | path => path

/-- The path that leads to a name, if it does; it may lead to the directory that is or that holds
the one it comes from. -/
def stem? (path : String) : Option String :=
  match withoutTail path.toList.reverse with
  | [] => none
  | ['.', '.'] => none
  | '.' :: '.' :: '/' :: _ => none
  | stem => some (String.ofList stem.reverse)

end RunQuery.Text.Path

import RunQuery.Decimal.Basic
import RunQuery.Unicode.Class

/-!
# Files of environment variables

A file that sets environment variables: a name, an equals sign and a value, perhaps after the word
`export`. Variables that are set already keep their values. Reading stops at the first mistake, and
what was set before stays.

## Lines

An assignment takes up one line, unless a quotation or an escape is open at its end; then it goes on
in the next one. A `#` after a blank begins a comment, which takes up the rest of the line, but only
if that blank stands alone: after two blanks quotation marks open quotations again. A file that ends
amid an assignment, or right after a blank, is mistaken there.

## Values

Single quotes keep everything in them as it is; within double quotes and outside of quotes a
backslash escapes the next character, and `$NAME` and `${NAME}` stand for the value of a variable.
The character that ends a name without braces stands for itself, even if it is a quotation mark.
Outside of quotes a value ends at a blank, after which only a comment may stand.
-/

namespace RunQuery.Settings.Variables

open Unicode

/-- Variables by name. Of several with one name the first counts. -/
abbrev Environment := List (String × String)

def value? (name : String) (environment : Environment) : Option String :=
  (environment.find? (·.1 == name)).map (·.2)

/-- Set a variable that is not set. -/
def extend (environment : Environment) (entry : String × String) : Environment :=
  if (value? entry.1 environment).isSome then environment else environment ++ [entry]

/-! ## Lines -/

/-- Where a line stands between its characters. -/
inductive LineState where
  /-- Nothing is open. -/
  | complete
  /-- After a blank. -/
  | blank
  /-- After a backslash outside of quotes. -/
  | escape
  /-- In single quotes; `escaped` after a backslash. -/
  | single (escaped : Bool)
  /-- In double quotes; `escaped` after a backslash. -/
  | double (escaped : Bool)
  deriving DecidableEq

namespace LineState

/-- The state that a character opens where nothing else is open. -/
def opened? (c : Char) : Option LineState :=
  if c = '\\' then some escape
  else if c = '"' then some (double false)
  else if c = '\'' then some (single false)
  else none

def after (c : Char) : LineState → LineState
  | complete =>
    if isWhiteSpace c && c != '\n' && c != '\r' then blank else (opened? c).getD complete
  | blank => (opened? c).getD complete
  | escape => complete
  | single true => single false
  | single false => if c = '\\' then single true else if c = '\'' then complete else single false
  | double true => double false
  | double false => if c = '\\' then double true else if c = '"' then complete else double false

end LineState

/-- The lines of a text, each with its line end. -/
def physicalLines : List Char → List (List Char)
  | [] => []
  | c :: rest =>
    match c, physicalLines rest with
    | '\n', lines => ['\n'] :: lines
    | c, line :: lines => (c :: line) :: lines
    | c, [] => [[c]]

/-- What a line holds before its comment, if it has one, and the state at its end. -/
def withoutComment (state : LineState) : List Char → List Char × Option LineState
  | [] => ([], some state)
  | c :: rest =>
    if state = .blank ∧ c = '#' then ([], none)
    else
      let (line, last) := withoutComment (state.after c) rest
      (c :: line, last)

def withoutLineEnd (line : List Char) : List Char :=
  match line.reverse with
  | '\n' :: '\r' :: rest => rest.reverse
  | '\n' :: rest => rest.reverse
  | _ => line

/-- The lines of assignments, given what of the first one was read before; `none` for the mistake at
the end of the file. -/
def logicalLines (before : List Char) (state : LineState) :
    List (List Char) → List (Option (List Char))
  | [] => if state = .complete then [] else [none]
  | line :: lines =>
    if ((before ++ line).dropWhile isWhiteSpace).head? = some '#' then
      logicalLines [] .complete lines
    else
      let (kept, last) := withoutComment state line
      match last with
      | none => some (before ++ kept) :: logicalLines [] .complete lines
      | some .complete =>
        some (withoutLineEnd (before ++ kept)) :: logicalLines [] .complete lines
      | some last => logicalLines (before ++ kept) last lines

/-! ## Values -/

/-- How the characters of a value are to be taken; `double` tells whether they are in double
quotes. -/
inductive Mode where
  /-- As they are. -/
  | plain (double : Bool)
  /-- The next one is escaped. -/
  | escaped (double : Bool)
  /-- In single quotes. -/
  | single
  /-- As the name of a variable after a dollar sign, the last character first. -/
  | name (double : Bool) (sofar : List Char)
  /-- As the name of a variable in braces, the last character first. -/
  | braced (double : Bool) (sofar : List Char)
  /-- The value is over. -/
  | ended

/-- The character that a backslash and `c` stand for. -/
def escape? (c : Char) : Option Char :=
  match c with
  | 'n' => some '\n'
  | '\\' | '\'' | '"' | '$' | ' ' => some c
  | _ => none

/-- The text of a variable whose name is given with the last character first. One that is not set is
empty. -/
def textOf (environment : Environment) (name : List Char) : List Char :=
  ((value? (String.ofList name.reverse) environment).getD "").toList

def valueFrom? (environment : Environment) : Mode → List Char → Option (List Char)
  | .plain double, [] => if double then none else some []
  | .escaped double, [] => if double then none else some []
  | .single, [] => none
  | .name double sofar, [] => if double then none else some (textOf environment sofar)
  | .braced _ _, [] => none
  | .ended, [] => some []
  | .ended, c :: rest =>
    if c = ' ' ∨ c = '\t' then valueFrom? environment .ended rest
    else if c = '#' then some []
    else none
  | .escaped double, c :: rest =>
    match escape? c with
    | some d => (valueFrom? environment (.plain double) rest).map (d :: ·)
    | none => none
  | .single, c :: rest =>
    if c = '\'' then valueFrom? environment (.plain false) rest
    else (valueFrom? environment .single rest).map (c :: ·)
  | .name double sofar, c :: rest =>
    if isAlphanumeric c then valueFrom? environment (.name double (c :: sofar)) rest
    else if c = '\x7b' ∧ sofar.isEmpty then valueFrom? environment (.braced double []) rest
    else
      let text := textOf environment sofar
      if c = '$' then (valueFrom? environment (.name double []) rest).map (text ++ ·)
      else (valueFrom? environment (.plain double) rest).map (text ++ c :: ·)
  | .braced double sofar, c :: rest =>
    if c = '\x7d' then
      (valueFrom? environment (.plain double) rest).map (textOf environment sofar ++ ·)
    else valueFrom? environment (.braced double (c :: sofar)) rest
  | .plain double, c :: rest =>
    if c = '$' then valueFrom? environment (.name double []) rest
    else if c = '\\' then valueFrom? environment (.escaped double) rest
    else if c = '"' then valueFrom? environment (.plain !double) rest
    else if double then (valueFrom? environment (.plain double) rest).map (c :: ·)
    else if c = '\'' then valueFrom? environment .single rest
    else if c = ' ' ∨ c = '\t' then valueFrom? environment .ended rest
    else (valueFrom? environment (.plain double) rest).map (c :: ·)

/-! ## Assignments -/

/-- The text after the white space at its front. -/
def skipSpace (text : List Char) : List Char := text.dropWhile isWhiteSpace

def beginsName (c : Char) : Bool := c.isAlpha || c == '_'

def isNameChar (c : Char) : Bool := beginsName c || Decimal.isDigit c || c == '.'

/-- The name at the front of a text and what follows it. -/
def name? (text : List Char) : Option (String × List Char) :=
  if text.head?.any beginsName then
    some (String.ofList (text.takeWhile isNameChar), skipSpace (text.dropWhile isNameChar))
  else none

/-- Is there nothing but a comment? -/
def saysNothing (text : List Char) : Bool := text.head?.all (· == '#')

/-- The variable that a name and what follows it set. -/
def assignment? (environment : Environment) (name : String) (rest : List Char) :
    Option (String × String) :=
  match rest with
  | '=' :: rest =>
    let text := skipSpace rest
    if saysNothing text then some (name, "")
    else (valueFrom? environment (.plain false) text).map fun value ↦ (name, String.ofList value)
  | _ => none

/-- The environment after a line; `none` for a mistake. -/
def afterLine? (environment : Environment) (line : List Char) : Option Environment :=
  let text := skipSpace (line.reverse.dropWhile isWhiteSpace).reverse
  if saysNothing text then some environment
  else do
    let (name, rest) ← name? text
    let (name, rest) ← if name = "export" ∧ rest.head? ≠ some '=' then name? rest
      else some (name, rest)
    return extend environment (← assignment? environment name rest)

/-- The environment after some lines, up to the first mistake. -/
def afterLines (environment : Environment) : List (Option (List Char)) → Environment
  | [] => environment
  | none :: _ => environment
  | some line :: lines =>
    match afterLine? environment line with
    | some environment => afterLines environment lines
    | none => environment

/-- The environment after a file. A byte order mark at its begin does not count. -/
def afterFile (environment : Environment) (text : String) : Environment :=
  let text := match text.toList with
    | '\uFEFF' :: rest => rest
    | text => text
  afterLines environment (logicalLines [] .complete (physicalLines text))

end RunQuery.Settings.Variables

import RunQuery.Settings.Entry

/-!
# Arguments of the command line

What the words after the program's name ask for. There are three commands, one of which has
commands of its own, and each level has its options; two options are understood at every level,
and the deepest place where one of them stands counts.

An option is written `--name value` or `--name=value`. The value after a blank must not begin with
a hyphen, unless it is nothing else. After the word `--` nothing is an option or a command. No
option may be repeated, apart from conditions, and names of files must not be empty.

Words are read from the left. The first mistake ends the reading, and so does the wish for help or
for the version; whether options fit together is looked at only afterwards.
-/

namespace RunQuery.CommandLine

/-! ## What can be asked for -/

/-- The options that are understood at every level. -/
structure CommonOptions where
  /-- The name of the settings file. -/
  config : Option String
  /-- Print on one line. -/
  compact : Bool
  deriving DecidableEq

/-- Where a query starts from. -/
inductive QuerySource where
  /-- All runs. -/
  | everything
  /-- The query in a file. -/
  | file (path : String)
  /-- The filter in a link. -/
  | link (text : String)
  deriving DecidableEq

/-- The wish to run a query. -/
structure QueryOptions where
  /-- The file with the payloads. -/
  runs : String
  /-- Where the query starts from. -/
  source : QuerySource
  /-- Further conditions. -/
  conditions : List String
  /-- The name by which runs are sorted. -/
  sort : Option String
  /-- Sort the greatest first. -/
  descending : Bool
  /-- The greatest number of rows. -/
  page : Option Nat
  deriving DecidableEq

/-- What the program is to do. -/
inductive Command where
  /-- Run a query. -/
  | query (options : QueryOptions)
  /-- Answer the requests in a file. -/
  | replay (file : String) (latestOnly : Bool)
  /-- Write the filter in a file as a link. -/
  | encode (file : String)
  /-- Write the filter in a link as data. -/
  | decode (link : String)
  deriving DecidableEq

/-- Why there is no command. -/
inductive Stop where
  /-- A mistake. -/
  | usage
  /-- The wish for help. -/
  | help
  /-- The wish for the version. -/
  | version
  deriving DecidableEq

/-! ## Levels -/

/-- What an option takes. -/
inductive OptionKind where
  /-- Nothing. -/
  | flag
  /-- A text. -/
  | text
  /-- A text, and the option may be repeated. -/
  | texts
  /-- The name of a file. -/
  | file
  /-- A count. -/
  | count
  deriving DecidableEq

/-- The words that are understood at a level. -/
structure Level where
  /-- The options. -/
  options : List (String × OptionKind)
  /-- What the operands are, one after another. -/
  operands : List OptionKind
  /-- The commands. -/
  commands : List String
  /-- May the version be asked for? -/
  hasVersion : Bool

namespace Level

/-- The options of every level. -/
def common : List (String × OptionKind) := [("config", .file), ("compact", .flag)]

def top : Level := ⟨common, [], ["query", "replay", "filter"], true⟩

def query : Level :=
  ⟨common ++ [("runs", .file), ("query", .file), ("filter-url", .text), ("where", .texts),
    ("sort", .text), ("desc", .flag), ("page", .count)], [], [], false⟩

def replay : Level := ⟨common ++ [("latest-only", .flag)], [.file], [], false⟩

def filter : Level := ⟨common, [], ["encode", "decode"], false⟩

/-- The encoding of a filter. -/
def encode : Level := ⟨common, [.file], [], false⟩

/-- The decoding of a filter. -/
def decode : Level := ⟨common, [.text], [], false⟩

end Level

/-! ## Words -/

/-- What has been found at a level. -/
structure Found where
  /-- The options and their values, in order. A flag has an empty value. -/
  options : List (String × String)
  /-- The operands, in order. -/
  operands : List String
  /-- The command, and the words after it. -/
  command : Option (String × List String)

namespace Found

/-- Nothing yet. -/
def none : Found := ⟨[], [], Option.none⟩

def value? (f : Found) (name : String) : Option String := f.options.lookup name

/-- The values of an option that may be repeated. -/
def values (f : Found) (name : String) : List String :=
  (f.options.filter (·.1 == name)).map Prod.snd

/-- Is the option there? -/
def has (f : Found) (name : String) : Bool := (f.value? name).isSome

end Found

/-- Is the text a value for an option of that kind? -/
def accepts : OptionKind → String → Bool
  | .flag, _ => false
  | .text, _ => true
  | .texts, _ => true
  | .file, text => !text.isEmpty
  | .count, text => (Settings.Entry.countOfText? text.toList).isSome

def addOption (f : Found) (name : String) (kind : OptionKind) (value : String) :
    Except Stop Found :=
  if f.has name && kind != .texts then .error .usage
  else if kind == .flag || accepts kind value then
    .ok { f with options := f.options ++ [(name, value)] }
  else .error .usage

def addOperand (level : Level) (f : Found) (text : String) : Except Stop Found :=
  match level.operands[f.operands.length]? with
  | some kind =>
    if accepts kind text then .ok { f with operands := f.operands ++ [text] } else .error .usage
  | none => .error .usage

/-- A word as an option: the name after two hyphens, and the value after an equals sign. -/
def asOption? (word : List Char) : Option (String × Option String) :=
  match word with
  | '-' :: '-' :: c :: rest =>
    let name := (c :: rest).takeWhile (· != '=')
    match (c :: rest).dropWhile (· != '=') with
    | [] => some (String.ofList name, none)
    | _ :: value => some (String.ofList name, some (String.ofList value))
  | _ => none

/-- What letters after a single hyphen ask for. -/
def ofLetters (level : Level) : List Char → Stop
  | 'h' :: _ => .help
  | 'V' :: _ => if level.hasVersion then .version else .usage
  | _ => .usage

/-- What an option without a kind asks for. -/
def ofUnknown (level : Level) (name : String) (value : Option String) : Stop :=
  if value.isSome then .usage
  else if name = "help" then .help
  else if name = "version" ∧ level.hasVersion then .version
  else .usage

/-- Does the word stand for something else than itself? -/
def isMarked (word : String) : Bool :=
  match word.toList with
  | '-' :: _ :: _ => true
  | _ => false

/-- The operands in words of which none is an option. -/
def takeOperands (level : Level) (f : Found) (words : List String) : Except Stop Found :=
  words.foldlM (addOperand level) f

/-- What a word means at a level where no option waits for its value. -/
inductive Meaning where
  /-- A command. -/
  | command
  /-- The end of all options. -/
  | lastOption
  /-- An option with its value; that of a flag is empty. -/
  | option (name : String) (kind : OptionKind) (value : String)
  /-- An option whose value is the next word. -/
  | waiting (name : String) (kind : OptionKind)
  /-- An operand. -/
  | operand
  /-- The end of the reading. -/
  | stop (reason : Stop)

def meaningOfOption (level : Level) (name : String) (value : Option String) : Meaning :=
  match level.options.lookup name, value with
  | none, value => .stop (ofUnknown level name value)
  | some .flag, some _ => .stop .usage
  | some .flag, none => .option name .flag ""
  | some kind, some value => .option name kind value
  | some kind, none => .waiting name kind

def meaning (level : Level) (word : String) : Meaning :=
  if level.commands.contains word then .command
  else if word = "help" ∧ !level.commands.isEmpty then .stop .help
  else if word = "--" then .lastOption
  else
    match asOption? word.toList with
    | some (name, value) => meaningOfOption level name value
    | none => if isMarked word then .stop (ofLetters level word.toList.tail) else .operand

/-- What is found in the words of a level, while an option may wait for its value. -/
def find (level : Level) (f : Found) : (waiting : Option (String × OptionKind)) → List String →
    Except Stop Found
  | none, [] => .ok f
  | some _, [] => .error .usage
  | some (name, kind), word :: words =>
    -- the name of a command is a value here
    if isMarked word then .error .usage
    else
      match addOption f name kind word with
      | .error stop => .error stop
      | .ok f => find level f none words
  | none, word :: words =>
    match meaning level word with
    | .command => .ok { f with command := some (word, words) }
    | .lastOption => takeOperands level f words
    | .waiting name kind => find level f (some (name, kind)) words
    | .stop reason => .error reason
    | .option name kind value =>
      match addOption f name kind value with
      | .error stop => .error stop
      | .ok f => find level f none words
    | .operand =>
      match addOperand level f word with
      | .error stop => .error stop
      | .ok f => find level f none words

def findAll (level : Level) (words : List String) : Except Stop Found :=
  find level Found.none none words

/-! ## Commands -/

/-- The options of every level, where those of `inner` go before those of `outer`. -/
def CommonOptions.join (outer inner : CommonOptions) : CommonOptions :=
  ⟨inner.config.or outer.config, outer.compact || inner.compact⟩

/-- The options of every level that have been found at one. -/
def commonOf (f : Found) : CommonOptions := ⟨f.value? "config", f.has "compact"⟩

/-- The query that options ask for: the runs have to be named, the query has one source at most,
and only what is sorted can be sorted the other way. -/
def queryOf (f : Found) : Except Stop Command :=
  match f.value? "runs", f.value? "query", f.value? "filter-url" with
  | none, _, _ => .error .usage
  | some _, some _, some _ => .error .usage
  | some runs, file, link =>
    if f.has "desc" && !f.has "sort" then .error .usage
    else
      .ok <| .query {
        runs
        source := ((file.map .file).or (link.map .link)).getD .everything
        conditions := f.values "where"
        sort := f.value? "sort"
        descending := f.has "desc"
        page := (f.value? "page").bind fun text ↦ Settings.Entry.countOfText? text.toList }

def operandOf (f : Found) (command : String → Command) : Except Stop Command :=
  match f.operands with
  | [operand] => .ok (command operand)
  | _ => .error .usage

def ofFilterWords (words : List String) : Except Stop (CommonOptions × Command) := do
  let outer ← findAll Level.filter words
  match outer.command with
  | some ("encode", words) =>
    let f ← findAll Level.encode words
    return ((commonOf outer).join (commonOf f), ← operandOf f .encode)
  | some (_, words) =>
    let f ← findAll Level.decode words
    return ((commonOf outer).join (commonOf f), ← operandOf f .decode)
  | none => .error .usage

/-- What the words after the program's name ask for. -/
def ofWords (words : List String) : Except Stop (CommonOptions × Command) := do
  let outer ← findAll Level.top words
  match outer.command with
  | some ("query", words) =>
    let f ← findAll Level.query words
    return ((commonOf outer).join (commonOf f), ← queryOf f)
  | some ("replay", words) =>
    let f ← findAll Level.replay words
    return ((commonOf outer).join (commonOf f),
      ← operandOf f fun file ↦ .replay file (f.has "latest-only"))
  | some (_, words) =>
    let (inner, command) ← ofFilterWords words
    return ((commonOf outer).join inner, command)
  | none => .error .usage

end RunQuery.CommandLine

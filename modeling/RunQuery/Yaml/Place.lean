import RunQuery.Yaml.Node
import RunQuery.Yaml.Plain

/-!
# YAML documents of the edition of 2005 as documents for typed readers

A place in a document is a node together with the nodes that references may lead to. References are
followed where somebody looks, so an anchored node may even contain itself, as long as nobody asks
for all of it.

A typed reader asks for what it needs, and then a plain `5` is as good a text as a quoted one, but a
quoted one is no number. Where the kind of data is open, the style of a scalar and its tag decide.
Tags of YAML's own kinds are obeyed there, local tags, which begin with an exclamation mark, stand
for cases, and all others say that a scalar is a text.

## Bounds

What is asked for as a whole may not be nested deeper than 128 lists and mappings, counted from the
root, and reading it may not follow more references than a hundred times the length of the document.
-/

namespace RunQuery.Yaml

/-! ## Tags -/

namespace Tag

def isCore (t : Tag) (name : String) : Bool := t.name == core ++ name

/-- The name of the case that a local tag stands for. -/
def local? (t : Tag) : Option String :=
  match t.name.toList with
  | ['!'] => some "!"
  | '!' :: name => some (String.ofList name)
  | _ => none

end Tag

namespace Properties

/-- Is the tag the one of YAML itself of that name? -/
def isCore (p : Properties) (name : String) : Bool := p.tag.any (·.isCore name)

/-- The case that the tag stands for. -/
def case? (p : Properties) : Option String := p.tag.bind Tag.local?

end Properties

/-! ## Scalars -/

/-- What a scalar stands for by itself. -/
def scalarContent (p : Properties) (style : Style) (text : String) : Content :=
  if p.tag.isNone then if style = .plain then Plain.content text else .text text
  else if p.case?.isSome then .unreadable
  else if p.isCore "bool" then ((Plain.bool? text).map Content.bool).getD .unreadable
  else if p.isCore "int" then (Plain.integerContent? text).getD .unreadable
  else if p.isCore "float" then ((Plain.float? text).map Content.float).getD .unreadable
  else if p.isCore "null" then if Plain.isNullWord text then .null else .unreadable
  else .text text

/-! ## Places -/

/-- A node of a document and what it needs to be read. -/
structure Place where
  /-- The nodes that references lead to. -/
  anchored : List (Nat × Node)
  /-- How many references may be followed at once. -/
  jumps : Nat
  /-- The number of lists and mappings that may be nested here. -/
  depth : Nat
  /-- The node. -/
  node : Node

namespace Place

/-- The number of lists and mappings that may be nested. -/
def nestingLimit : Nat := 128

/-- The number of references that may be followed for each piece of a document. -/
def jumpsPerPiece : Nat := 100

/-- The place of a whole document. -/
def ofRoot (node : Node) : Place :=
  ⟨Node.anchored [] node, jumpsPerPiece * node.size, nestingLimit, node⟩

/-- The node itself, where a reference stands the one it leads to. -/
def target (p : Place) : Node :=
  match p.node with
  | .reference number =>
    ((p.anchored.find? (·.1 == number)).map (·.2)).getD (Node.missing .y2005)
  | node => node

def within (p : Place) (node : Node) : Place := { p with depth := p.depth - 1, node }

/-! ### As content -/

/-- Follow a reference, if one may still be followed; `jumps` counts those that may. -/
def follow? (p : Place) (jumps : Nat) : Option (Node × Nat) :=
  match p.node with
  | .reference _ => if jumps = 0 then none else some (p.target, jumps - 1)
  | node => some (node, jumps)

/-- The content of nodes one after another, as `read` gives it. -/
def contents? (read : Node → Nat → Option (Content × Nat)) :
    List Node → (jumps : Nat) → Option (List Content × Nat)
  | [], jumps => some ([], jumps)
  | node :: nodes, jumps => do
    let (content, jumps) ← read node jumps
    let (contents, jumps) ← contents? read nodes jumps
    return (content :: contents, jumps)

/-- The name that a scalar gives to a member, where names are texts. -/
def nameOf? (p : Place) (node : Node) (jumps : Nat) : Option (Content × Nat) := do
  match ← follow? { p with node } jumps with
  | (.scalar _ _ text, jumps) => return (.text text, jumps)
  | _ => none

/-- The content of the node, with at most `depth` lists and mappings in one another, and the number
of references that may still be followed. If `texts` is said, names are the texts of scalars. -/
def contentWithin? (p : Place) (texts : Bool) (depth : Nat) (node : Node) (jumps : Nat) :
    Option (Content × Nat) := do
  let (node, jumps) ← follow? { p with node } jumps
  match node, depth with
  | .scalar q style text, _ =>
    match scalarContent q style text with
    | .unreadable => none
    | content => return (content, jumps)
  | .list q items, depth + 1 =>
    if q.case?.isSome then none
    let (items, jumps) ← contents? (contentWithin? p texts depth) items jumps
    return (.list items, jumps)
  | .mapping q members, depth + 1 =>
    if q.case?.isSome then none
    let readName := if texts then p.nameOf? else contentWithin? p texts depth
    let rec go (jumps : Nat) : List (Node × Node) → Option (List (Content × Content) × Nat)
      | [] => some ([], jumps)
      | (key, value) :: members => do
        let (key, jumps) ← readName key jumps
        let (value, jumps) ← contentWithin? p texts depth value jumps
        let (members, jumps) ← go jumps members
        return ((key, value) :: members, jumps)
    let (members, jumps) ← go jumps members
    return (.mapping members, jumps)
  | _, _ => none

def content? (p : Place) (texts : Bool) : Option Content :=
  (p.contentWithin? texts p.depth p.node p.jumps).map (·.1)

/-! ### As a document -/

def text? (p : Place) : Option String :=
  match p.target with
  | .scalar _ _ text => some text
  | _ => none

/-- Is this an empty plain scalar? -/
def isMissing (p : Place) : Bool :=
  match p.target with
  | .scalar _ .plain text => text.isEmpty
  | _ => false

/-- The text of a scalar that may be taken as data of one of YAML's own kinds: a plain one, or a
literal one of that very tag. -/
def wordOf? (p : Place) (kind : String) : Option String :=
  match p.target with
  | .scalar _ .plain text => some text
  | .scalar q .literal text => if q.isCore kind then some text else none
  | _ => none

/-- The count that a scalar writes. -/
def count? (p : Place) : Option Nat := do
  match ← Plain.integer? (← p.wordOf? "int") with
  | (false, n) => if n < Json.Number.wordLimit then return n else none
  | (true, _) => none

def isNull (p : Place) : Bool :=
  match p.target with
  | .scalar q .plain text =>
    if q.tag.isNone then Plain.isNull text else q.isCore "null" && Plain.isNullWord text
  | _ => false

/-- The name of the case that a scalar names, or a local tag in front of nothing. -/
def caseName? (p : Place) : Option String :=
  match p.target with
  | .scalar q style text =>
    match q.case? with
    | some name => if style = .plain ∧ Plain.isNull text then some name else none
    | none => some text
  | _ => none

/-- The items of a list; a missing node is an empty one. -/
def items? (p : Place) : Option (List Place) :=
  match p.target with
  | .list _ items => some (items.map p.within)
  | _ => if p.isMissing then some [] else none

/-- The members of a mapping, with what `name?` makes of their names; a missing node is an empty
one. -/
def membersBy? {α : Type} (p : Place) (name? : Place → Option α) : Option (List (α × Place)) :=
  match p.target with
  | .mapping _ members =>
    members.mapM fun (key, value) ↦ (name? (p.within key)).map fun name ↦ (name, p.within value)
  | _ => if p.isMissing then some [] else none

/-- The members of a mapping whose content is read as a whole. -/
def properMembers? (p : Place) : Option (List (Document.Label × Place)) :=
  match p.content? false, p.target with
  | some (.mapping _), .mapping _ _ =>
    p.membersBy? fun key ↦ (key.content? false).bind Content.label?
  | _, _ => none

instance : Document Place where
  bool? p := (p.wordOf? "bool").bind Plain.bool?
  count? := count?
  double? p := (p.wordOf? "float").bind Plain.float?
  text? := text?
  caseLabel? p := p.caseName?.map .name
  items? := items?
  members? p := p.membersBy? text?
  holder? p := (p.membersBy? fun key ↦ key.text?.map .name).map .members
  isNull := isNull
  json? p := (p.content? true).bind Content.toJson?
  value? p := (p.content? false).bind Content.toValue?
  properText? p := (p.content? false).bind Content.text?
  properMembers? := properMembers?

/-- The place of the whole document in a text. A text without one holds a missing node. -/
def read? (text : String) : Option Place :=
  (Node.read? .y2005 text).map fun node ↦ ofRoot (node.getD (Node.missing .y2005))

end Place

end RunQuery.Yaml

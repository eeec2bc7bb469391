import RunQuery.Dict
import RunQuery.Yaml.Scanner

/-!
# YAML documents

The lists, mappings and scalars of a YAML text. What a scalar stands for is not decided here: it
depends on who asks.

As for JSON, reading is one pass over the tokens by a machine with a stack of what is open. A token
either begins a node where one may begin, or says what follows the node that has just ended. Where
a node may begin and the token begins none, the node is missing, and a plain scalar stands in its
place. A text holds one document at most.

## Anchors

A node with an anchor can stand again elsewhere, where only its anchor is named. Nodes are not
copied: a reference holds the number of the anchor, and `Node.anchored` gives the nodes by number.
In the edition of 2009 every anchor has its own number. In that of 2005 an anchor gets the number of
the names seen before it, so that it can share its number with another one, and then the last of
these counts for all.
-/

namespace RunQuery.Yaml

/-! ## Nodes -/

structure Tag where
  /-- What its handle is short for. -/
  beginning : String
  /-- The rest. -/
  suffix : String
  deriving DecidableEq

namespace Tag

/-- The whole tag. -/
def name (t : Tag) : String := t.beginning ++ t.suffix

/-- What the tags of YAML itself begin with. -/
def core : String := "tag:yaml.org,2002:"

/-- What the handles that need no directive are short for. -/
def beginning? (handle : String) : Option String :=
  if handle = "!!" then some core else if handle = "!" ∨ handle = "" then some handle else none

end Tag

/-- What is said of a node in front of it. -/
structure Properties where
  /-- The number of its anchor. -/
  anchor : Option Nat
  /-- Its tag. -/
  tag : Option Tag
  deriving DecidableEq

/-- Nothing is said. -/
def Properties.none : Properties := ⟨Option.none, Option.none⟩

/-- A node of a YAML document. -/
inductive Node where
  /-- A piece of text. -/
  | scalar (properties : Properties) (style : Style) (text : String)
  /-- A list. -/
  | list (properties : Properties) (items : List Node)
  /-- A mapping, in written order. -/
  | mapping (properties : Properties) (members : List (Node × Node))
  /-- The node of the anchor of that number. -/
  | reference (anchor : Nat)
  deriving Inhabited

namespace Node

/-- The scalar that stands for a missing node. -/
def missing (edition : Edition) : Node :=
  .scalar Properties.none .plain (if edition = .y2005 then "" else "~")

/-- What is said of a node. -/
def properties : Node → Properties
  | scalar p _ _ => p
  | list p _ => p
  | mapping p _ => p
  | reference _ => Properties.none

mutual

/-- The nodes with an anchor in a node, by number, after those already found; the last one stands
first. -/
def anchored (found : List (Nat × Node)) : Node → List (Nat × Node)
  | scalar p style text => (p.anchor.map fun n ↦ (n, scalar p style text)).toList ++ found
  | list p items =>
    anchoredItems ((p.anchor.map fun n ↦ (n, list p items)).toList ++ found) items
  | mapping p members =>
    anchoredMembers ((p.anchor.map fun n ↦ (n, mapping p members)).toList ++ found) members
  | reference _ => found

def anchoredItems (found : List (Nat × Node)) : List Node → List (Nat × Node)
  | [] => found
  | item :: items => anchoredItems (anchored found item) items

def anchoredMembers (found : List (Nat × Node)) : List (Node × Node) → List (Nat × Node)
  | [] => found
  | (key, value) :: members => anchoredMembers (anchored (anchored found key) value) members

end

mutual

/-- How long the written form of a node is: scalars and references count once, lists and mappings
twice. -/
def size : Node → Nat
  | list _ items => 2 + sizeOfItems items
  | mapping _ members => 2 + sizeOfMembers members
  | _ => 1

/-- How long the written form of items is. -/
def sizeOfItems : List Node → Nat
  | [] => 0
  | item :: items => size item + sizeOfItems items

/-- How long the written form of members is. -/
def sizeOfMembers : List (Node × Node) → Nat
  | [] => 0
  | (key, value) :: members => size key + size value + sizeOfMembers members

end

end Node

/-! ## The reader -/

/-- What is open around a node. Items and members stand with the last one first. -/
inductive Frame where
  /-- A list in block style. -/
  | blockItem (p : Properties) (items : List Node)
  /-- A list in block style at the indent of the mapping around it, which nothing closes. -/
  | flatItem (p : Properties) (items : List Node)
  /-- A mapping in block style, at a key. -/
  | blockKey (p : Properties) (members : List (Node × Node))
  /-- A mapping in block style, at the value of a key. -/
  | blockValue (p : Properties) (members : List (Node × Node)) (key : Node)
  /-- A list between brackets. -/
  | flowItem (p : Properties) (items : List Node)
  /-- A list between brackets, at the key of an item that is a single pair. -/
  | pairKey (p : Properties) (items : List Node)
  /-- A list between brackets, at the value of an item that is a single pair. -/
  | pairValue (p : Properties) (items : List Node) (key : Node)
  /-- A mapping between braces, at a key. -/
  | flowKey (p : Properties) (members : List (Node × Node))
  /-- A mapping between braces, at a key that has no value. -/
  | flowLone (p : Properties) (members : List (Node × Node))
  /-- A mapping between braces, at the value of a key. -/
  | flowValue (p : Properties) (members : List (Node × Node)) (key : Node)

/-- What may come next. -/
inductive Expectation where
  /-- The document, or what is said at its head. -/
  | document
  /-- The rest of the head of the document, with its versions so far. -/
  | head (versions : Nat)
  /-- A node of which something has been said. -/
  | node (p : Properties)
  /-- An item of a list in block style, after those so far, or the end. -/
  | blockItems (p : Properties) (items : List Node)
  /-- A key of a mapping in block style, after the members so far, or the end. -/
  | blockMembers (p : Properties) (members : List (Node × Node))
  /-- An item of a list between brackets, after those so far, or the end. -/
  | flowItems (p : Properties) (items : List Node)
  /-- A key of a mapping between braces, after the members so far, or the end. -/
  | flowMembers (p : Properties) (members : List (Node × Node))
  /-- What may follow the node just read. -/
  | after (node : Node)

/-- The state of the reader. -/
structure Reader where
  /-- The edition of YAML. -/
  edition : Edition
  /-- What handles are short for. -/
  handles : List (String × String)
  /-- The numbers of the anchors that can be named. -/
  anchors : List (String × Nat)
  /-- The number of anchors so far. -/
  count : Nat
  /-- What is open, the innermost first. -/
  stack : List Frame
  /-- What may come next. -/
  expect : Expectation

namespace Reader

/-- Before the first token. -/
def start (edition : Edition) : Reader := ⟨edition, [], [], 0, [], .document⟩

/-- The reader with something else open and to come. -/
def moved (r : Reader) (stack : List Frame) (expect : Expectation) : Reader :=
  { r with stack, expect }

/-- The scalar that stands for a missing node. -/
def missing (r : Reader) : Node := Node.missing r.edition

/-- The reader before a node of which nothing has been said. -/
def toNode (r : Reader) (stack : List Frame) : Reader := r.moved stack (.node Properties.none)

/-! ### Heads of documents -/

/-- Take a directive. In the edition of 2005 versions are looked at and every handle counts; in that
of 2009 only what the last directive says about a handle does. -/
def directive? (r : Reader) (versions : Nat) (d : Directive) : Option Reader :=
  match r.edition, d with
  | .y2005, .version major minor =>
    if versions = 0 ∧ major = 1 ∧ (minor = 1 ∨ minor = 2) then some (r.moved [] (.head 1)) else none
  | .y2005, .tag handle beginning =>
    if (lookupEntry handle r.handles).isSome then none
    else some { r.moved [] (.head versions) with handles := (handle, beginning) :: r.handles }
  | .y2005, .other => none
  | .y2009, .version _ _ =>
    if versions = 0 then some { r.moved [] (.head 1) with handles := [] } else none
  | .y2009, .tag handle beginning =>
    some { r.moved [] (.head versions) with handles := [(handle, beginning)] }
  | .y2009, .other => some { r.moved [] (.head versions) with handles := [] }

/-! ### Properties -/

def anchor (r : Reader) (stack : List Frame) (p : Properties) (name : String) : Reader :=
  let number := if r.edition = .y2005 then r.anchors.length else r.count
  { r.moved stack (.node { p with anchor := some number }) with
    anchors := (name, number) :: r.anchors.filter (·.1 != name), count := r.count + 1 }

/-- The tag that is written by a handle and a suffix. -/
def tag? (r : Reader) (t : TagName) : Option Tag :=
  ((lookupEntry t.handle r.handles).or (Tag.beginning? t.handle)).map fun beginning ↦
    ⟨beginning, t.suffix⟩

/-- What is said of a scalar. In the edition of 2005 a single mark says nothing. -/
def ofScalar (r : Reader) (p : Properties) : Properties :=
  if r.edition = .y2005 ∧ p.tag.any (·.name == "!") then { p with tag := none } else p

/-! ### Nodes -/

/-- Is the innermost thing that is open a mapping in block style? -/
def inBlockMapping : List Frame → Bool
  | .blockKey _ _ :: _ => true
  | .blockValue _ _ _ :: _ => true
  | _ => false

/-- Is the innermost thing that is open in block style, or nothing open? -/
def inBlock : List Frame → Bool
  | [] => true
  | .blockItem _ _ :: _ => true
  | .flatItem _ _ :: _ => true
  | stack => inBlockMapping stack

/-- Take the token that begins a node, or says something of it. -/
def beginNode? (r : Reader) (stack : List Frame) (p : Properties) : Token → Option Reader
  | .scalar text style => some (r.moved stack (.after (.scalar (r.ofScalar p) style text)))
  | .reference name =>
    if p = Properties.none then
      (lookupEntry name r.anchors).map fun number ↦ r.moved stack (.after (.reference number))
    else none
  | .anchor name => if p.anchor.isNone then some (r.anchor stack p name) else none
  | .tag t =>
    if p.tag.isNone then
      (r.tag? t).map fun t ↦ r.moved stack (.node { p with tag := some t })
    else none
  | .listStart => some (r.moved stack (.flowItems p []))
  | .mappingStart => some (r.moved stack (.flowMembers p []))
  | .blockList => if inBlock stack then some (r.moved stack (.blockItems p [])) else none
  | .blockMapping => if inBlock stack then some (r.moved stack (.blockMembers p [])) else none
  | .item => if inBlockMapping stack then some (r.toNode (.flatItem p [] :: stack)) else none
  | _ => none

/-- Take the token where an item of a list in block style, or its end, is expected. -/
def blockItems? (r : Reader) (p : Properties) (items : List Node) (stack : List Frame) :
    Token → Option Reader
  | .item => some (r.toNode (.blockItem p items :: stack))
  | .blockEnd => some (r.moved stack (.after (.list p items.reverse)))
  | _ => none

/-- Take the token where a key of a mapping in block style, or its end, is expected. In the edition
of 2009 there can be a value whose key is missing. -/
def blockMembers? (r : Reader) (p : Properties) (members : List (Node × Node))
    (stack : List Frame) : Token → Option Reader
  | .key => some (r.toNode (.blockKey p members :: stack))
  | .value =>
    if r.edition = .y2009 then some (r.toNode (.blockValue p members r.missing :: stack)) else none
  | .blockEnd => some (r.moved stack (.after (.mapping p members.reverse)))
  | _ => none

/-- Take the token after an item of a list between brackets. -/
def afterFlowItem? (r : Reader) (p : Properties) (items : List Node) (stack : List Frame) :
    Token → Option Reader
  | .comma => some (r.moved stack (.flowItems p items))
  | .listEnd => some (r.moved stack (.after (.list p items.reverse)))
  | _ => none

/-- Take the token after a member of a mapping between braces. -/
def afterFlowMember? (r : Reader) (p : Properties) (members : List (Node × Node))
    (stack : List Frame) : Token → Option Reader
  | .comma => some (r.moved stack (.flowMembers p members))
  | .mappingEnd => some (r.moved stack (.after (.mapping p members.reverse)))
  | _ => none

/-- The mapping that a single pair between brackets makes. -/
def pair (key value : Node) : Node := .mapping Properties.none [(key, value)]

def afterNode? (r : Reader) (node : Node) : List Frame → Token → Option Reader
  | [], t => if t = .documentEnd then some (r.moved [] (.after node)) else none
  | .blockItem p items :: stack, t => r.blockItems? p (node :: items) stack t
  | .flatItem p items :: stack, t =>
    -- no token ends such a list; whatever is no further item belongs to the mapping around it
    if t = .item then some (r.toNode (.flatItem p (node :: items) :: stack))
    else r.afterNode? (.list p (node :: items).reverse) stack t
  | .blockKey p members :: stack, t =>
    if t = .value then some (r.toNode (.blockValue p members node :: stack))
    else r.blockMembers? p ((node, r.missing) :: members) stack t
  | .blockValue p members key :: stack, t => r.blockMembers? p ((key, node) :: members) stack t
  | .flowItem p items :: stack, t => r.afterFlowItem? p (node :: items) stack t
  | .pairKey p items :: stack, t =>
    if t = .value then some (r.toNode (.pairValue p items node :: stack))
    else r.afterFlowItem? p (pair node r.missing :: items) stack t
  | .pairValue p items key :: stack, t => r.afterFlowItem? p (pair key node :: items) stack t
  | .flowKey p members :: stack, t =>
    if t = .value then some (r.toNode (.flowValue p members node :: stack))
    else r.afterFlowMember? p ((node, r.missing) :: members) stack t
  | .flowLone p members :: stack, t => r.afterFlowMember? p ((node, r.missing) :: members) stack t
  | .flowValue p members key :: stack, t => r.afterFlowMember? p ((key, node) :: members) stack t

/-- Take the token where a node may begin. If something has been said of a node that is missing, it
is the empty text. A missing key of a single pair between brackets takes the token that stands in
its place with it. -/
def node? (r : Reader) (p : Properties) (t : Token) : Option Reader :=
  match r.stack, t, r.beginNode? r.stack p t with
  | _, _, some next => some next
  | .pairKey _ _ :: _, t, none =>
    if p ≠ Properties.none then r.afterNode? (.scalar p .plain "") r.stack t
    else if t = .value ∨ t = .comma ∨ t = .listEnd then some (r.moved r.stack (.after r.missing))
    else none
  | stack, t, none =>
    r.afterNode? (if p = Properties.none then r.missing else .scalar p .plain "") stack t

/-- Take the token where an item between brackets may begin. -/
def flowItems? (r : Reader) (p : Properties) (items : List Node) : Token → Option Reader
  | .listEnd => some (r.moved r.stack (.after (.list p items.reverse)))
  | .key => some (r.toNode (.pairKey p items :: r.stack))
  | .value =>
    if r.edition = .y2009 then some (r.toNode (.pairValue p items r.missing :: r.stack)) else none
  | t => r.beginNode? (.flowItem p items :: r.stack) Properties.none t

/-- Take the token where a member between braces may begin. -/
def flowMembers? (r : Reader) (p : Properties) (members : List (Node × Node)) :
    Token → Option Reader
  | .mappingEnd => some (r.moved r.stack (.after (.mapping p members.reverse)))
  | .key => some (r.toNode (.flowKey p members :: r.stack))
  | .value =>
    if r.edition = .y2009 then some (r.toNode (.flowValue p members r.missing :: r.stack))
    else none
  | t => r.beginNode? (.flowLone p members :: r.stack) Properties.none t

/-- Take the next token. -/
def step (r : Reader) (t : Token) : Option Reader :=
  match r.expect, t with
  | .document, .directive d => r.directive? 0 d
  | .document, .documentStart => some (r.toNode [])
  | .document, .documentEnd => if r.edition = .y2009 then some r else none
  | .document, t => r.beginNode? [] Properties.none t
  | .head versions, .directive d => r.directive? versions d
  | .head _, .documentStart => some (r.toNode [])
  | .head _, _ => none
  | .node p, t => r.node? p t
  | .blockItems p items, t => r.blockItems? p items r.stack t
  | .blockMembers p members, t => r.blockMembers? p members r.stack t
  | .flowItems p items, t => r.flowItems? p items t
  | .flowMembers p members, t => r.flowMembers? p members t
  | .after node, t => r.afterNode? node r.stack t

/-- The document of the whole text, where nothing is open. The inner `none` is for a text without
a document. -/
def finish (r : Reader) : Option (Option Node) :=
  match r.stack, r.expect with
  | [], .document => some none
  | [], .node p => some (some (if p = Properties.none then r.missing else .scalar p .plain ""))
  | [], .after node => some (some node)
  | _, _ => none

end Reader

namespace Node

/-- The document that a text denotes, if there is one in it. -/
def read? (edition : Edition) (text : String) : Option (Option Node) := do
  let tokens ← Token.scanAll edition text
  (← tokens.foldlM Reader.step (Reader.start edition)).finish

end Node

end RunQuery.Yaml

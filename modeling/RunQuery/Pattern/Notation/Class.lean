import RunQuery.Pattern.Notation.Escape

/-!
# Classes in brackets

A class lists characters, ranges, named classes and classes of its own, and joins such lists by
operations on sets, from left to right. Its *height* counts how deep its parts are nested: a class,
a list of several items and an operation each stand one above what they are made of.

Under `i` the two sides of an operation and the whole class ignore case, and only then is the
complement taken.
-/

namespace RunQuery.Pattern

open Unicode

/-- How two sets are joined in a class. -/
inductive SetOperation where
  /-- What is in both. -/
  | inter
  /-- What is in the first only. -/
  | diff
  /-- What is in just one. -/
  | symm

/-- Join two sets. -/
def SetOperation.apply : SetOperation → Ranges → Ranges → Ranges
  | inter => Ranges.inter
  | diff => Ranges.diff
  | symm => Ranges.symm

/-- A set of a class with the height of what it is made of. -/
structure ClassSet where
  /-- The set. -/
  set : Ranges
  /-- The height. -/
  height : Nat

/-- A class that is open. -/
structure OpenClass where
  /-- Is its complement meant? -/
  negated : Bool
  /-- The left side, and the operation that waits for its right side. -/
  waiting : Option (ClassSet × SetOperation)
  /-- The items so far, after the operation. -/
  items : Ranges
  /-- How many they are. -/
  count : Nat
  /-- The largest of their heights. -/
  height : Nat

namespace OpenClass

def add (c : OpenClass) (item : ClassSet) : OpenClass :=
  { c with items := c.items.union item.set, count := c.count + 1,
           height := max c.height item.height }

/-- The items as one set. -/
def list (c : OpenClass) : ClassSet :=
  ⟨c.items, if c.count < 2 then c.height else c.height + 1⟩

/-- The set so far. -/
def current (flags : Flags) (c : OpenClass) : ClassSet :=
  match c.waiting with
  | none => c.list
  | some (left, op) =>
    ⟨op.apply (flags.fold left.set) (flags.fold c.list.set), max left.height c.list.height + 1⟩

/-- The class after an operation, which joins all so far with what comes. -/
def operate (flags : Flags) (c : OpenClass) (op : SetOperation) : OpenClass :=
  ⟨c.negated, some (c.current flags, op), [], 0, 0⟩

def close? (flags : Flags) (c : OpenClass) : Option ClassSet :=
  (flags.signed? c.negated (flags.fold (c.current flags).set)).map
    (⟨·, (c.current flags).height + 1⟩)

end OpenClass

/-- The begin of a class after its bracket: an optional `^`, hyphens, and a closing bracket that
stands for itself because nothing comes before it. -/
def openClass (flags : Flags) (text : List Char) : OpenClass × List Char :=
  let text := flags.skip text
  let (negated, text) := match text with
    | '^' :: rest => (true, flags.skip rest)
    | text => (false, text)
  let start : OpenClass := ⟨negated, none, [], 0, 0⟩
  let sign (c : Char) : ClassSet := ⟨[.single c.toNat], 0⟩
  let (hyphens, text) := flags.run (· == '-') text
  if !hyphens.isEmpty then (hyphens.foldl (fun made c ↦ made.add (sign c)) start, text)
  else match text with
    | ']' :: rest => (start.add (sign ']'), flags.skip rest)
    | text => (start, text)

/-- A bracketed class name such as `[:alpha:]`, after its first bracket: the class that it names and
whether its complement is meant. -/
def className? (text : List Char) : Option ((Ranges × Bool) × List Char) :=
  match text with
  | ':' :: rest => do
    let (negated, rest) := match rest with
      | '^' :: rest => (true, rest)
      | rest => (false, rest)
    let set ← AsciiClass.ofName? (String.ofList (rest.takeWhile (· != ':')))
    match rest.dropWhile (· != ':') with
    | ':' :: ']' :: after => return ((set, negated), after)
    | _ => none
  | _ => none

def classAtom? (flags : Flags) : List Char → Option (Escape × List Char)
  | '\\' :: rest => escape? flags rest
  | c :: rest => some (.literal c, rest)
  | [] => none

/-- A character of a class. Without `u`, characters beyond ASCII may not stand in one. -/
def classChar? (flags : Flags) : Escape → Option Char
  | .literal c => if flags.unicode || c.toNat < 0x80 then some c else none
  | _ => none

/-- The next character that counts after a hyphen. In a comment the first character that is not
blank counts already; where nothing but blanks follows, the first of them does. -/
def afterHyphen (flags : Flags) (text : List Char) : Option Char :=
  if flags.spaced then
    match text.dropWhile isWhiteSpace with
    | '#' :: comment => ((comment.dropWhile isWhiteSpace).head?).or text.head?
    | c :: _ => some c
    | [] => text.head?
  else text.head?

/-- An item of a class: a character, a set, or a range. -/
def classItem? (flags : Flags) (text : List Char) : Option (Ranges × List Char) := do
  let (first, rest) ← classAtom? flags text
  match flags.skip rest with
  | [] => none
  | c :: rest =>
    let next := afterHyphen flags rest
    if c = '-' ∧ next ≠ some ']' ∧ next ≠ some '-' then
      let (last, rest) ← classAtom? flags (flags.skip rest)
      let lo ← classChar? flags first
      let hi ← classChar? flags last
      if lo ≤ hi then return ([⟨lo.toNat, hi.toNat⟩], rest) else none
    else
      match first with
      | .set s => return (s, c :: rest)
      | .assert _ => none
      | literal => return ([.single (← classChar? flags literal).toNat], c :: rest)

/-- What one step of a class does. -/
inductive ClassStep where
  /-- The innermost class goes on, changed. -/
  | goOn (c : OpenClass)
  /-- A class opens in the innermost one. -/
  | nest (c : OpenClass)
  /-- The innermost class ends. -/
  | close

/-- Take one piece of a class off the front of the text. -/
def classStep? (flags : Flags) (c : OpenClass) (text : List Char) :
    Option (ClassStep × List Char) :=
  match flags.skip text with
  | [] => none
  | '[' :: rest =>
    match className? rest with
    | some ((s, negated), rest) =>
      (flags.signed? negated (flags.fold s)).map fun s ↦ (.goOn (c.add ⟨s, 0⟩), rest)
    | none =>
      let (inner, rest) := openClass flags rest
      some (.nest inner, rest)
  | ']' :: rest => some (.close, rest)
  | '&' :: '&' :: rest => some (.goOn (c.operate flags .inter), rest)
  | '-' :: '-' :: rest => some (.goOn (c.operate flags .diff), rest)
  | '~' :: '~' :: rest => some (.goOn (c.operate flags .symm), rest)
  | text => (classItem? flags text).map fun (s, rest) ↦ (.goOn (c.add ⟨s, 0⟩), rest)

/-- The set of a class, from a place inside it on; `outer` are the classes around it. Each step
takes at least one character off the text, whose length is the fuel. -/
def classBody? (flags : Flags) : (fuel : Nat) → (c : OpenClass) → (outer : List OpenClass) →
    List Char → Option (ClassSet × List Char)
  | 0, _, _, _ => none
  | fuel + 1, c, outer, text =>
    match classStep? flags c text, outer with
    | none, _ => none
    | some (.goOn c, rest), outer => classBody? flags fuel c outer rest
    | some (.nest inner, rest), outer => classBody? flags fuel inner (c :: outer) rest
    | some (.close, rest), [] => (c.close? flags).map (·, rest)
    | some (.close, rest), parent :: outer =>
      match c.close? flags with
      | some s => classBody? flags fuel (parent.add s) outer rest
      | none => none

/-- The class after its opening bracket. -/
def class? (flags : Flags) (text : List Char) : Option (ClassSet × List Char) :=
  let (c, rest) := openClass flags text
  classBody? flags (rest.length + 1) c [] rest

end RunQuery.Pattern

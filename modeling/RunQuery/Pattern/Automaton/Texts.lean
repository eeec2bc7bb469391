import RunQuery.Pattern.Automaton.Basic

/-!
# Parts for a choice between texts

A choice between texts only is kept as a tree, in which texts with a common begin share its nodes.
Where one of the texts ends, the node keeps apart the bytes that were added before and those that
come after, so that the order of preference among the texts stays visible.
-/

namespace RunQuery.Pattern.Automaton

/-- A node of the tree: the groups of bytes that lead on, in the order of preference, where a text
ends between each two of them. The last group is the one to which bytes are added. -/
inductive TextTree where
  /-- A node with its finished groups, the last one first, and the last group. -/
  | node (done : List (List (UInt8 × TextTree))) (last : List (UInt8 × TextTree))

namespace TextTree

def leaf : TextTree := node [] []

/-- Does no byte lead on? -/
def isLeaf : TextTree → Bool
  | node done last => done.all List.isEmpty && last.isEmpty

/-- The node with the end of a text. There is no use for a second end where nothing leads on. -/
def endText : TextTree → TextTree
  | node done last =>
    if !done.isEmpty && isLeaf (node done last) then node done last else node (last :: done) []

/-- The byte `b` among the bytes of a group, in ascending order: the bytes before it, its node, and
the bytes after it. -/
def splitGroup (b : UInt8) (bytes : List (UInt8 × TextTree)) :
    List (UInt8 × TextTree) × TextTree × List (UInt8 × TextTree) :=
  let before := bytes.takeWhile (·.1 < b)
  match bytes.dropWhile (·.1 < b) with
  | (c, t) :: after => if c = b then (before, t, after) else (before, leaf, (c, t) :: after)
  | [] => (before, leaf, [])

def insert : List UInt8 → TextTree → TextTree
  | [], t => t.endText
  | b :: bs, node done last =>
    let (before, t, after) := splitGroup b last
    node done (before ++ (b, insert bs t) :: after)

def ofTexts (texts : List (List UInt8)) : TextTree := texts.foldl (fun t bs ↦ t.insert bs) leaf

end TextTree

/-- The state for a group of bytes, if there is any. -/
def addGroup (ts : List Transition) : Build (List Nat) :=
  match ts with
  | [] => return []
  | [t] => return [← add (.byte t)]
  | ts => return [← add (.table ts)]

mutual

/-- Add a node of which the texts lead to the state `target`: the choice between its groups and the
ends of texts. -/
def addNode (target : Nat) : TextTree → Build Nat
  | .node done last => do
    let before ← addGroups target done
    let ts ← addTransitions target last
    add (.choice (before ++ (← addGroup ts)))

/-- The branches for the finished groups of a node, each with the end of a text after it. -/
def addGroups (target : Nat) : List (List (UInt8 × TextTree)) → Build (List Nat)
  | [] => return []
  | bytes :: earlier => do
    let before ← addGroups target earlier
    let ts ← addTransitions target bytes
    return before ++ (← addGroup ts) ++ [target]

/-- The transitions of a group. A byte after which nothing comes leads to the end. -/
def addTransitions (target : Nat) : List (UInt8 × TextTree) → Build (List Transition)
  | [] => return []
  | (b, t) :: rest => do
    let next ← if t.isLeaf then pure target else addNode target t
    return ⟨.single b, next⟩ :: (← addTransitions target rest)

end

/-- The part for a choice between texts. -/
def addTexts (texts : List (List UInt8)) : Build Part := do
  let last ← add (.pass 0)
  let first ← addNode last (.ofTexts texts)
  return ⟨first, last⟩

end RunQuery.Pattern.Automaton

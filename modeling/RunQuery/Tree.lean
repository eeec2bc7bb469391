import RunQuery.Dict

/-!
# Data trees

The shape that nested data share, whatever its numbers are: null, truth values, numbers, strings,
lists and objects. The type of the numbers is a parameter, because the same shape occurs with
numbers that remember how they were written and with numbers that are only doubles.

An object is a list of members in the order in which they were written, which may repeat a key.
`canonical` is the form in which members are meant: in key order, the last one of each key.
-/

namespace RunQuery

/-- Nested data over numbers of type `ν`. -/
inductive Tree (ν : Type) where
  /-- No value. -/
  | null
  /-- A truth value. -/
  | bool (b : Bool)
  /-- A number. -/
  | number (n : ν)
  /-- A text. -/
  | string (s : String)
  /-- A list. -/
  | array (items : List (Tree ν))
  /-- Named members. -/
  | object (members : List (String × Tree ν))
  deriving Inhabited

namespace Tree

variable {ν μ : Type}

/-! ## Observers -/

def isNull : Tree ν → Bool
  | null => true
  | _ => false

/-- Is this neither a list nor an object? -/
def isScalar : Tree ν → Bool
  | array _ => false
  | object _ => false
  | _ => true

/-- The text, where this is one. -/
def string? : Tree ν → Option String
  | string s => some s
  | _ => none

def number? : Tree ν → Option ν
  | number n => some n
  | _ => none

/-- The member of that name, where this is an object that has one. -/
def member? (name : String) : Tree ν → Option (Tree ν)
  | object members => lookupEntry name members
  | _ => none

/-! ## Change of the numbers -/

mutual

/-- Change every number. -/
def map (f : ν → μ) : Tree ν → Tree μ
  | null => null
  | bool b => bool b
  | number n => number (f n)
  | string s => string s
  | array items => array (mapItems f items)
  | object members => object (mapMembers f members)

/-- Change every number of a list of trees. -/
def mapItems (f : ν → μ) : List (Tree ν) → List (Tree μ)
  | [] => []
  | item :: items => map f item :: mapItems f items

def mapMembers (f : ν → μ) : List (String × Tree ν) → List (String × Tree μ)
  | [] => []
  | (name, value) :: members => (name, map f value) :: mapMembers f members

end

@[simp] theorem mapItems_eq (f : ν → μ) (items : List (Tree ν)) :
    mapItems f items = items.map (map f) := by
  induction items with
  | nil => rfl
  | cons item items ih => rw [mapItems, ih, List.map_cons]

@[simp] theorem mapMembers_eq (f : ν → μ) (members : List (String × Tree ν)) :
    mapMembers f members = members.map fun m ↦ (m.1, map f m.2) := by
  induction members with
  | nil => rfl
  | cons m members ih => rw [mapMembers, ih, List.map_cons]

/-! ## The canonical form -/

mutual

/-- The tree whose members are in key order, the last one of each key, at every depth. -/
def canonical : Tree ν → Tree ν
  | null => null
  | bool b => bool b
  | number n => number n
  | string s => string s
  | array items => array (canonicalItems items)
  | object members => object (orderEntries (canonicalMembers members))

def canonicalItems : List (Tree ν) → List (Tree ν)
  | [] => []
  | item :: items => canonical item :: canonicalItems items

def canonicalMembers : List (String × Tree ν) → List (String × Tree ν)
  | [] => []
  | (name, value) :: members => (name, canonical value) :: canonicalMembers members

end

/-! ## Equality -/

section

variable (eq : ν → ν → Bool)

mutual

/-- Are two trees of the same shape, with equal texts and with numbers that `eq` takes as equal? -/
def equal : Tree ν → Tree ν → Bool
  | null, null => true
  | bool a, bool b => a == b
  | number a, number b => eq a b
  | string a, string b => a == b
  | array a, array b => equalItems a b
  | object a, object b => equalMembers a b
  | _, _ => false

def equalItems : List (Tree ν) → List (Tree ν) → Bool
  | [], [] => true
  | a :: as, b :: bs => equal a b && equalItems as bs
  | _, _ => false

def equalMembers : List (String × Tree ν) → List (String × Tree ν) → Bool
  | [], [] => true
  | (k, a) :: as, (l, b) :: bs => k == l && equal a b && equalMembers as bs
  | _, _ => false

end

end

end Tree

end RunQuery

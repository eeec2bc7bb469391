import RunQuery.Document

/-!
# Field keys

A key names one field of a run: its section and its name within the section. Its text is
`section:name`, as in `config:lr`.

## Text and key

The text of a key is read up to the first colon. What stands before it has to be one of the known
sections; otherwise the whole text is the name of a built-in field, so a name may hold colons and a
bare name needs no section. Keys with an unknown section exist, because data may carry them, but no
text is read as one.
-/

namespace RunQuery

/-- The part of a run that a field belongs to. -/
inductive Section where
  /-- Built-in fields, such as name, state and host. -/
  | run
  /-- The configuration, flattened into dotted paths. -/
  | config
  /-- The metrics. -/
  | summary
  /-- Membership of a tag. -/
  | tags
  /-- A section that no run has. -/
  | unknown (name : String)
  deriving DecidableEq, Inhabited

namespace Section

def name : Section → String
  | run => "run"
  | config => "config"
  | summary => "summary"
  | tags => "tags"
  | unknown name => name

def ofName (name : String) : Section :=
  if name = "run" then run
  else if name = "config" then config
  else if name = "summary" then summary
  else if name = "tags" then tags
  else unknown name

/-- Does a run have this section? -/
def isKnown : Section → Bool
  | unknown _ => false
  | _ => true

/-- The rank of a section: the known ones as declared, the others after them. -/
def rank : Section → Nat
  | run => 0
  | config => 1
  | summary => 2
  | tags => 3
  | unknown _ => 4

instance : Ord Section where
  compare := compareLex (compareOn rank) (compareOn name)

theorem compare_def :
    (compare : Section → Section → Ordering) = compareLex (compareOn rank) (compareOn name) :=
  rfl

instance : Std.TransOrd Section := by
  unfold Std.TransOrd
  rw [compare_def]
  infer_instance

instance : Std.LawfulEqOrd Section where
  compare_self := by
    intro a
    simp
  eq_of_compare := by
    intro a b h
    rw [compare_def, compareLex_eq_eq] at h
    have hrank : a.rank = b.rank := Std.LawfulEqCmp.eq_of_compare h.1
    have hname : a.name = b.name := Std.LawfulEqCmp.eq_of_compare h.2
    cases a <;> cases b <;> simp_all [rank, name]

end Section

/-- The address of one field of a run. -/
structure Key where
  /-- The section. -/
  inSection : Section
  /-- The name within the section. -/
  name : String
  deriving DecidableEq, Inhabited

namespace Key

/-! ## Order -/

instance : Ord Key where
  compare := compareLex (compareOn inSection) (compareOn name)

theorem compare_def :
    (compare : Key → Key → Ordering) = compareLex (compareOn inSection) (compareOn name) :=
  rfl

instance : Std.TransOrd Key := by
  unfold Std.TransOrd
  rw [compare_def]
  infer_instance

instance : Std.LawfulEqOrd Key where
  compare_self := by
    intro a
    simp
  eq_of_compare := by
    intro a b h
    rw [compare_def, compareLex_eq_eq] at h
    have hsection : a.inSection = b.inSection := Std.LawfulEqCmp.eq_of_compare h.1
    have hname : a.name = b.name := Std.LawfulEqCmp.eq_of_compare h.2
    cases a
    cases b
    simp_all

/-! ## Text -/

def text (key : Key) : String := key.inSection.name ++ ":" ++ key.name

/-- The key that a text names. A text names none if it is empty or ends after a known section and
its colon. -/
def parse? (text : String) : Option Key :=
  let chars := text.toList
  if chars.isEmpty then none
  else match chars.dropWhile (· != ':') with
    | [] => some ⟨.run, text⟩
    | _ :: name =>
      let area := Section.ofName (String.ofList (chars.takeWhile (· != ':')))
      if area.isKnown then
        if name.isEmpty then none else some ⟨area, String.ofList name⟩
      -- what stands before the colon is no section, so the colon belongs to the name
      else some ⟨.run, text⟩

/-- What is said of a text that names no key. -/
def invalidMessage (text : String) : String := "Invalid key: " ++ text

/-! ## Data -/

def toJson (key : Key) : Json :=
  .object [("section", .string key.inSection.name), ("name", .string key.name)]

/-- The key that a document gives: by its text, or by section and name. -/
def read? {δ : Type} [Document δ] (d : δ) : Option Key :=
  match Document.properText? d with
  | some text => parse? text
  | none => do
    let members ← Document.properMembers? d
    let area ← (← Document.uniqueMember? "section" 0 members).bind Document.properText?
    let name ← (← Document.uniqueMember? "name" 1 members).bind Document.properText?
    return ⟨Section.ofName area, name⟩

end Key

end RunQuery

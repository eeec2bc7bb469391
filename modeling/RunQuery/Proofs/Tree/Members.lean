import RunQuery.Proofs.Dict.Entries
import RunQuery.Tree

/-!
# Changed members

Objects in which members are written, changed or left out by their names. Each change is described
by what is found in the object afterwards; that needs no order of the members.
-/

namespace RunQuery.Tree

variable {ν : Type} {t : Tree ν} {name : String} {value : Tree ν}

theorem exists_eq_object_of_member? (h : t.member? name = some value) :
    ∃ members, t = object members := by
  cases t with
  | object members => exact ⟨members, rfl⟩
  | _ => cases h

/-! ## Members that are written -/

/-- The object with a value under a name, in place of what was there. -/
def putMember (t : Tree ν) (name : String) (value : Tree ν) : Tree ν :=
  match t with
  | object members => object (insertEntry name value members)
  | t => t

theorem member?_putMember_of_ne {other : String} (h : other ≠ name) (t value : Tree ν) :
    (t.putMember name value).member? other = t.member? other := by
  cases t with
  | object members =>
    have hcompare : compare other name ≠ .eq := fun heq ↦ h (Std.LawfulEqCmp.eq_of_compare heq)
    exact (lookupEntry_insertEntry name other value members).trans (if_neg hcompare)
  | _ => rfl

theorem member?_putMember_self {other : String} (h : t.member? other = some value)
    (name : String) (value : Tree ν) : (t.putMember name value).member? name = some value := by
  obtain ⟨members, rfl⟩ := exists_eq_object_of_member? h
  exact (lookupEntry_insertEntry name name value members).trans
    (if_pos Std.ReflCmp.compare_self)

/-! ## Members that are changed -/

/-- The object with the value under a name, if there is one, changed. -/
def changeMember (name : String) (f : Tree ν → Tree ν) (t : Tree ν) : Tree ν :=
  match t.member? name with
  | some value => t.putMember name (f value)
  | none => t

@[simp] theorem member?_changeMember (name : String) (f : Tree ν → Tree ν) (t : Tree ν)
    (other : String) :
    (t.changeMember name f).member? other
      = if other = name then (t.member? name).map f else t.member? other := by
  rw [changeMember]
  by_cases heq : other = name
  · rw [if_pos heq, heq]
    cases hmember : t.member? name with
    | none => exact hmember
    | some value => exact member?_putMember_self hmember name (f value)
  · rw [if_neg heq]
    cases t.member? name with
    | none => rfl
    | some value => exact member?_putMember_of_ne heq t (f value)

/-! ## Members that are left out -/

/-- The object without the members of certain names. -/
def dropMembers (drop : String → Bool) : Tree ν → Tree ν
  | object members => object (members.filter fun m ↦ !drop m.1)
  | t => t

@[simp] theorem member?_dropMembers (drop : String → Bool) (t : Tree ν) (name : String) :
    (t.dropMembers drop).member? name = if drop name then none else t.member? name := by
  have hnone : none = if drop name then none else (none : Option (Tree ν)) := (ite_self _).symm
  cases t with
  | object members =>
    refine (lookupEntry_filter (fun n ↦ !drop n) name members).trans ?_
    cases drop name with
    | true => rfl
    | false => rfl
  | _ => exact hnone

end RunQuery.Tree

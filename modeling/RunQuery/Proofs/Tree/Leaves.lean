import Mathlib.Data.List.Basic
import RunQuery.Tree

/-!
# The leaves of data

What stands at the leaves of a tree, and the trees that come about when its leaves are exchanged.
Every passage between two kinds of data in this library keeps lists, objects and the names of
members as they are, and only says what becomes of a number and what becomes of a string. All of
them are *grafts*, and what holds of a graft holds of each of them: two in a row are one, and it
changes nothing exactly if it changes no leaf.

A tree is nested in the lists of its items and members, so the functions on it come in threes. The
proofs do not: `Tree.induct` has the lists as lists, and one lemma for each function says that its
two companions are `map` or `flatMap`.
-/

namespace RunQuery

namespace Tree

variable {ν μ ξ : Type}

/-! ## Induction -/

/-- Induction over a tree, with the hypothesis for every item of a list and for the value of every
member of an object. -/
@[elab_as_elim]
theorem induct {motive : Tree ν → Prop} (t : Tree ν) (null : motive null)
    (bool : ∀ b, motive (bool b)) (number : ∀ n, motive (number n))
    (string : ∀ s, motive (string s))
    (array : ∀ items, (∀ t ∈ items, motive t) → motive (array items))
    (object : ∀ members, (∀ m ∈ members, motive m.2) → motive (object members)) : motive t :=
  @Tree.rec ν motive (fun items ↦ ∀ t ∈ items, motive t) (fun members ↦ ∀ m ∈ members, motive m.2)
    (fun m ↦ motive m.2) null bool number string array object
    (fun _ h ↦ nomatch h) (fun _ _ hitem hitems ↦ List.forall_mem_cons.mpr ⟨hitem, hitems⟩)
    (fun _ h ↦ nomatch h) (fun _ _ hmember hmembers ↦ List.forall_mem_cons.mpr ⟨hmember, hmembers⟩)
    (fun _ _ hvalue ↦ hvalue) t

/-! ## What stands at the leaves -/

mutual

/-- The numbers of a tree, from left to right. -/
def numbers : Tree ν → List ν
  | null => []
  | bool _ => []
  | number n => [n]
  | string _ => []
  | array items => itemNumbers items
  | object members => memberNumbers members

def itemNumbers : List (Tree ν) → List ν
  | [] => []
  | item :: items => numbers item ++ itemNumbers items

def memberNumbers : List (String × Tree ν) → List ν
  | [] => []
  | (_, value) :: members => numbers value ++ memberNumbers members

end

mutual

/-- The strings that are values in a tree, from left to right. Names of members are none of them. -/
def strings : Tree ν → List String
  | null => []
  | bool _ => []
  | number _ => []
  | string s => [s]
  | array items => itemStrings items
  | object members => memberStrings members

def itemStrings : List (Tree ν) → List String
  | [] => []
  | item :: items => strings item ++ itemStrings items

def memberStrings : List (String × Tree ν) → List String
  | [] => []
  | (_, value) :: members => strings value ++ memberStrings members

end

mutual

/-- How many lists and objects stand one inside of another. -/
def depth : Tree ν → Nat
  | null => 0
  | bool _ => 0
  | number _ => 0
  | string _ => 0
  | array items => itemsDepth items + 1
  | object members => membersDepth members + 1

/-- The greatest depth of the trees of a list. -/
def itemsDepth : List (Tree ν) → Nat
  | [] => 0
  | item :: items => max (depth item) (itemsDepth items)

def membersDepth : List (String × Tree ν) → Nat
  | [] => 0
  | (_, value) :: members => max (depth value) (membersDepth members)

end

@[simp] theorem itemNumbers_eq (items : List (Tree ν)) :
    itemNumbers items = items.flatMap numbers := by
  induction items with
  | nil => rfl
  | cons item items ih => rw [itemNumbers, ih, List.flatMap_cons]

@[simp] theorem memberNumbers_eq (members : List (String × Tree ν)) :
    memberNumbers members = members.flatMap fun m ↦ numbers m.2 := by
  induction members with
  | nil => rfl
  | cons m members ih => rw [memberNumbers, ih, List.flatMap_cons]

@[simp] theorem itemStrings_eq (items : List (Tree ν)) :
    itemStrings items = items.flatMap strings := by
  induction items with
  | nil => rfl
  | cons item items ih => rw [itemStrings, ih, List.flatMap_cons]

@[simp] theorem memberStrings_eq (members : List (String × Tree ν)) :
    memberStrings members = members.flatMap fun m ↦ strings m.2 := by
  induction members with
  | nil => rfl
  | cons m members ih => rw [memberStrings, ih, List.flatMap_cons]

theorem itemsDepth_le_iff {items : List (Tree ν)} {n : Nat} :
    itemsDepth items ≤ n ↔ ∀ t ∈ items, t.depth ≤ n := by
  induction items with
  | nil => simp [itemsDepth]
  | cons item items ih => rw [itemsDepth, Nat.max_le, ih, List.forall_mem_cons]

theorem membersDepth_le_iff {members : List (String × Tree ν)} {n : Nat} :
    membersDepth members ≤ n ↔ ∀ m ∈ members, m.2.depth ≤ n := by
  induction members with
  | nil => simp [membersDepth]
  | cons m members ih => rw [membersDepth, Nat.max_le, ih, List.forall_mem_cons]

@[simp] theorem forall_mem_numbers_array {items : List (Tree ν)} {P : ν → Prop} :
    (∀ n ∈ (array items).numbers, P n) ↔ ∀ t ∈ items, ∀ n ∈ t.numbers, P n := by
  rw [numbers, itemNumbers_eq]
  simp only [List.mem_flatMap]
  exact ⟨fun h t ht n hn ↦ h n ⟨t, ht, hn⟩, fun h n ⟨t, ht, hn⟩ ↦ h t ht n hn⟩

@[simp] theorem forall_mem_numbers_object {members : List (String × Tree ν)} {P : ν → Prop} :
    (∀ n ∈ (object members).numbers, P n) ↔ ∀ m ∈ members, ∀ n ∈ m.2.numbers, P n := by
  rw [numbers, memberNumbers_eq]
  simp only [List.mem_flatMap]
  exact ⟨fun h m hm n hn ↦ h n ⟨m, hm, hn⟩, fun h n ⟨m, hm, hn⟩ ↦ h m hm n hn⟩

@[simp] theorem forall_mem_strings_array {items : List (Tree ν)} {P : String → Prop} :
    (∀ s ∈ (array items).strings, P s) ↔ ∀ t ∈ items, ∀ s ∈ t.strings, P s := by
  rw [strings, itemStrings_eq]
  simp only [List.mem_flatMap]
  exact ⟨fun h t ht s hs ↦ h s ⟨t, ht, hs⟩, fun h s ⟨t, ht, hs⟩ ↦ h t ht s hs⟩

@[simp] theorem forall_mem_strings_object {members : List (String × Tree ν)} {P : String → Prop} :
    (∀ s ∈ (object members).strings, P s) ↔ ∀ m ∈ members, ∀ s ∈ m.2.strings, P s := by
  rw [strings, memberStrings_eq]
  simp only [List.mem_flatMap]
  exact ⟨fun h m hm s hs ↦ h s ⟨m, hm, hs⟩, fun h s ⟨m, hm, hs⟩ ↦ h m hm s hs⟩

/-! ## Grafts -/

mutual

/-- Put a tree in the place of every number and of every string. -/
def graft (ofNumber : ν → Tree μ) (ofString : String → Tree μ) : Tree ν → Tree μ
  | null => null
  | bool b => bool b
  | number n => ofNumber n
  | string s => ofString s
  | array items => array (graftItems ofNumber ofString items)
  | object members => object (graftMembers ofNumber ofString members)

def graftItems (ofNumber : ν → Tree μ) (ofString : String → Tree μ) :
    List (Tree ν) → List (Tree μ)
  | [] => []
  | item :: items => graft ofNumber ofString item :: graftItems ofNumber ofString items

def graftMembers (ofNumber : ν → Tree μ) (ofString : String → Tree μ) :
    List (String × Tree ν) → List (String × Tree μ)
  | [] => []
  | (name, value) :: members =>
    (name, graft ofNumber ofString value) :: graftMembers ofNumber ofString members

end

variable (f f' : ν → Tree μ) (g g' : String → Tree μ)

@[simp] theorem graftItems_eq (items : List (Tree ν)) :
    graftItems f g items = items.map (graft f g) := by
  induction items with
  | nil => rfl
  | cons item items ih => rw [graftItems, ih, List.map_cons]

@[simp] theorem graftMembers_eq (members : List (String × Tree ν)) :
    graftMembers f g members = members.map fun m ↦ (m.1, graft f g m.2) := by
  induction members with
  | nil => rfl
  | cons m members ih => rw [graftMembers, ih, List.map_cons]

@[simp] theorem graft_array (items : List (Tree ν)) :
    graft f g (array items) = array (items.map (graft f g)) := by
  rw [graft, graftItems_eq]

@[simp] theorem graft_object (members : List (String × Tree ν)) :
    graft f g (object members) = object (members.map fun m ↦ (m.1, graft f g m.2)) := by
  rw [graft, graftMembers_eq]

/-- Two grafts in a row are one. -/
@[simp] theorem graft_graft (f₂ : μ → Tree ξ) (g₂ : String → Tree ξ) (t : Tree ν) :
    (t.graft f g).graft f₂ g₂ = t.graft (fun n ↦ (f n).graft f₂ g₂) fun s ↦ (g s).graft f₂ g₂ := by
  induction t using induct with
  | null => rfl
  | bool b => rfl
  | number n => rfl
  | string s => rfl
  | array items ih => simpa using ih
  | object members ih => simpa using ih

variable {f f' g g'}

/-- Two grafts agree exactly if they agree on what stands at the leaves. -/
theorem graft_eq_graft_iff {t : Tree ν} :
    t.graft f g = t.graft f' g' ↔ (∀ n ∈ t.numbers, f n = f' n) ∧ ∀ s ∈ t.strings, g s = g' s := by
  induction t using induct with
  | null => simp [graft, numbers, strings]
  | bool b => simp [graft, numbers, strings]
  | number n => simp [graft, numbers, strings]
  | string s => simp [graft, numbers, strings]
  | array items ih =>
    simp only [graft_array, array.injEq, List.map_inj_left, forall_mem_numbers_array,
      forall_mem_strings_array]
    exact (forall₂_congr ih).trans forall₂_and
  | object members ih =>
    simp only [graft_object, object.injEq, List.map_inj_left, Prod.mk.injEq, true_and,
      forall_mem_numbers_object, forall_mem_strings_object]
    exact (forall₂_congr ih).trans forall₂_and

@[simp] theorem graft_number_string (t : Tree ν) : t.graft number string = t := by
  induction t using induct with
  | null => rfl
  | bool b => rfl
  | number n => rfl
  | string s => rfl
  | array items ih => simp [List.map_congr_left ih]
  | object members ih =>
    simp [List.map_congr_left fun m hm ↦ congrArg (Prod.mk m.1) (ih m hm)]

theorem graft_eq_self_iff {f : ν → Tree ν} {g : String → Tree ν} {t : Tree ν} :
    t.graft f g = t ↔ (∀ n ∈ t.numbers, f n = number n) ∧ ∀ s ∈ t.strings, g s = string s := by
  rw [← graft_eq_graft_iff, graft_number_string]

theorem forall_mem_numbers_graft {P : μ → Prop} {t : Tree ν} :
    (∀ x ∈ (t.graft f g).numbers, P x) ↔
      (∀ n ∈ t.numbers, ∀ x ∈ (f n).numbers, P x) ∧ ∀ s ∈ t.strings, ∀ x ∈ (g s).numbers, P x := by
  induction t using induct with
  | null => simp [graft, numbers, strings]
  | bool b => simp [graft, numbers, strings]
  | number n => simp [graft, numbers, strings]
  | string s => simp [graft, numbers, strings]
  | array items ih =>
    simp only [graft_array, forall_mem_numbers_array, List.forall_mem_map,
      forall_mem_strings_array]
    exact (forall₂_congr ih).trans forall₂_and
  | object members ih =>
    simp only [graft_object, forall_mem_numbers_object, List.forall_mem_map,
      forall_mem_strings_object]
    exact (forall₂_congr ih).trans forall₂_and

/-- With no string in the place of a number, the strings of a graft are those in the place of the
strings, in their order. -/
theorem strings_graft (hf : ∀ n, (f n).strings = []) (t : Tree ν) :
    (t.graft f g).strings = t.strings.flatMap fun s ↦ (g s).strings := by
  induction t using induct with
  | null => rfl
  | bool b => rfl
  | number n => exact hf n
  | string s => rw [graft, strings, List.flatMap_singleton]
  | array items ih =>
    simp only [graft_array, strings, itemStrings_eq, List.flatMap_map, List.flatMap_assoc]
    exact List.flatMap_congr ih
  | object members ih =>
    simp only [graft_object, strings, memberStrings_eq, List.flatMap_map, List.flatMap_assoc]
    exact List.flatMap_congr ih

theorem itemsDepth_map {h : Tree ν → Tree μ} {items : List (Tree ν)}
    (hdepth : ∀ t ∈ items, (h t).depth = t.depth) :
    itemsDepth (items.map h) = itemsDepth items := by
  induction items with
  | nil => rfl
  | cons item items ih =>
    obtain ⟨hitem, hitems⟩ := List.forall_mem_cons.mp hdepth
    rw [List.map_cons, itemsDepth, itemsDepth, hitem, ih hitems]

theorem membersDepth_map {h : Tree ν → Tree μ} {members : List (String × Tree ν)}
    (hdepth : ∀ m ∈ members, (h m.2).depth = m.2.depth) :
    membersDepth (members.map fun m ↦ (m.1, h m.2)) = membersDepth members := by
  induction members with
  | nil => rfl
  | cons m members ih =>
    obtain ⟨hmember, hmembers⟩ := List.forall_mem_cons.mp hdepth
    rw [List.map_cons, membersDepth, membersDepth, hmember, ih hmembers]

theorem depth_graft (hf : ∀ n, (f n).depth = 0) (hg : ∀ s, (g s).depth = 0) (t : Tree ν) :
    (t.graft f g).depth = t.depth := by
  induction t using induct with
  | null => rfl
  | bool b => rfl
  | number n => exact hf n
  | string s => exact hg s
  | array items ih => rw [graft_array, depth, depth, itemsDepth_map ih]
  | object members ih => rw [graft_object, depth, depth, membersDepth_map ih]

theorem map_eq_graft (h : ν → μ) (t : Tree ν) :
    t.map h = t.graft (fun n ↦ number (h n)) string := by
  induction t using induct with
  | null => rfl
  | bool b => rfl
  | number n => rfl
  | string s => rfl
  | array items ih => simpa [map] using ih
  | object members ih => simpa [map] using ih

/-! ## Outlines -/

/-- What remains of a tree when its numbers and strings are blanked out: the lists and objects, and
the names of members, each in its place. -/
def outline (t : Tree ν) : Tree Empty := t.graft (fun _ ↦ null) fun _ ↦ null

/-- A graft of leaves that are blanked out keeps every list, every object and every name. -/
theorem outline_graft (hf : ∀ n, (f n).outline = null) (hg : ∀ s, (g s).outline = null)
    (t : Tree ν) : (t.graft f g).outline = t.outline := by
  rw [outline, graft_graft]
  exact graft_eq_graft_iff.mpr ⟨fun n _ ↦ hf n, fun s _ ↦ hg s⟩

end Tree

end RunQuery

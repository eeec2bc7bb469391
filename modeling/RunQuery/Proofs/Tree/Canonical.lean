import RunQuery.Proofs.Dict.Entries
import RunQuery.Proofs.Tree.Leaves

/-!
# Canonical data

Data is canonical if every object in it has its members in key order and no key twice. The canonical
form of any data is canonical, grafts of scalars do not disturb it, and it has no leaves that the
data had not.
-/

namespace RunQuery.Tree

variable {ν μ : Type}

@[simp] theorem canonicalItems_eq (items : List (Tree ν)) :
    canonicalItems items = items.map canonical := by
  induction items with
  | nil => rfl
  | cons item items ih => rw [canonicalItems, ih, List.map_cons]

@[simp] theorem canonicalMembers_eq (members : List (String × Tree ν)) :
    canonicalMembers members = members.map fun m ↦ (m.1, canonical m.2) := by
  induction members with
  | nil => rfl
  | cons m members ih => rw [canonicalMembers, ih, List.map_cons]

@[simp] theorem canonical_array (items : List (Tree ν)) :
    (array items).canonical = array (items.map canonical) := by
  rw [canonical, canonicalItems_eq]

@[simp] theorem canonical_object (members : List (String × Tree ν)) :
    (object members).canonical
      = object ((orderEntries members).map fun m ↦ (m.1, canonical m.2)) := by
  rw [canonical, canonicalMembers_eq, orderEntries_map canonical]

/-- Is the data in canonical form? -/
def IsCanonical (t : Tree ν) : Prop := t.canonical = t

@[simp] theorem isCanonical_array_iff {items : List (Tree ν)} :
    (array items).IsCanonical ↔ ∀ t ∈ items, t.IsCanonical := by
  rw [IsCanonical, canonical_array, array.injEq]
  constructor
  · intro h t ht
    rw [← List.map_id' items, List.map_map, List.map_inj_left] at h
    exact h t ht
  · intro h
    rw [List.map_congr_left h, List.map_id']

@[simp] theorem isCanonical_object_iff {members : List (String × Tree ν)} :
    (object members).IsCanonical ↔ KeysIncrease members ∧ ∀ m ∈ members, m.2.IsCanonical := by
  rw [IsCanonical, canonical_object, object.injEq]
  constructor
  · intro h
    have hkeys : KeysIncrease members := by
      rw [← h]
      exact Dict.keysIncrease_mapValues _ (keysIncrease_orderEntries members)
    rw [hkeys.orderEntries_eq] at h
    refine ⟨hkeys, fun m hm ↦ ?_⟩
    rw [← List.map_id' members, List.map_map, List.map_inj_left] at h
    exact congrArg Prod.snd (h m hm)
  · rintro ⟨hkeys, hmembers⟩
    rw [hkeys.orderEntries_eq,
      List.map_congr_left fun m hm ↦ congrArg (Prod.mk m.1) (hmembers m hm), List.map_id']

/-- A canonical form is canonical. -/
@[simp] theorem isCanonical_canonical (t : Tree ν) : t.canonical.IsCanonical := by
  induction t using induct with
  | null => rfl
  | bool b => rfl
  | number n => rfl
  | string s => rfl
  | array items ih => simpa using ih
  | object members ih =>
    simp only [canonical_object, isCanonical_object_iff, List.forall_mem_map]
    exact ⟨Dict.keysIncrease_mapValues _ (keysIncrease_orderEntries members),
      fun m hm ↦ ih m (mem_of_mem_orderEntries hm)⟩

theorem isCanonical_of_isScalar {t : Tree ν} (h : t.isScalar = true) : t.IsCanonical := by
  cases t with
  | null => rfl
  | bool b => rfl
  | number n => rfl
  | string s => rfl
  | array items => cases h
  | object members => cases h

theorem IsCanonical.member? {t value : Tree ν} {name : String} (h : t.IsCanonical)
    (hvalue : t.member? name = some value) : value.IsCanonical := by
  cases t with
  | object members => exact (isCanonical_object_iff.mp h).2 _ (mem_of_lookupEntry hvalue)
  | null => cases hvalue
  | bool b => cases hvalue
  | number n => cases hvalue
  | string s => cases hvalue
  | array items => cases hvalue

/-! ## Grafts -/

/-- The members of a graft of scalars come into the same order. -/
theorem canonical_graft {f : ν → Tree μ} {g : String → Tree μ}
    (hf : ∀ n, (f n).isScalar = true) (hg : ∀ s, (g s).isScalar = true) (t : Tree ν) :
    (t.graft f g).canonical = t.canonical.graft f g := by
  induction t using induct with
  | null => rfl
  | bool b => rfl
  | number n => exact isCanonical_of_isScalar (hf n)
  | string s => exact isCanonical_of_isScalar (hg s)
  | array items ih => simpa using ih
  | object members ih =>
    simp only [graft_object, canonical_object, orderEntries_map (graft f g), List.map_map]
    refine congrArg _ (List.map_congr_left fun m hm ↦ ?_)
    exact congrArg (Prod.mk m.1) (ih m (mem_of_mem_orderEntries hm))

theorem IsCanonical.graft {f : ν → Tree μ} {g : String → Tree μ}
    (hf : ∀ n, (f n).isScalar = true) (hg : ∀ s, (g s).isScalar = true) {t : Tree ν}
    (h : t.IsCanonical) : (t.graft f g).IsCanonical := by
  rw [IsCanonical, canonical_graft hf hg, show t.canonical = t from h]

@[simp] theorem canonical_map (h : ν → μ) (t : Tree ν) :
    (t.map h).canonical = t.canonical.map h := by
  rw [map_eq_graft, map_eq_graft, canonical_graft (fun _ ↦ rfl) fun _ ↦ rfl]

/-! ## Leaves -/

theorem forall_mem_numbers_canonical {P : ν → Prop} {t : Tree ν} (h : ∀ n ∈ t.numbers, P n) :
    ∀ n ∈ t.canonical.numbers, P n := by
  induction t using induct with
  | null => exact h
  | bool b => exact h
  | number n => exact h
  | string s => exact h
  | array items ih =>
    simp only [canonical_array, forall_mem_numbers_array, List.forall_mem_map] at h ⊢
    exact fun t ht ↦ ih t ht (h t ht)
  | object members ih =>
    simp only [canonical_object, forall_mem_numbers_object, List.forall_mem_map] at h ⊢
    intro m hm
    -- the ordered form may leave members out, but it has no others
    have hmem := mem_of_mem_orderEntries hm
    exact ih m hmem (h m hmem)

theorem forall_mem_strings_canonical {P : String → Prop} {t : Tree ν} (h : ∀ s ∈ t.strings, P s) :
    ∀ s ∈ t.canonical.strings, P s := by
  induction t using induct with
  | null => exact h
  | bool b => exact h
  | number n => exact h
  | string s => exact h
  | array items ih =>
    simp only [canonical_array, forall_mem_strings_array, List.forall_mem_map] at h ⊢
    exact fun t ht ↦ ih t ht (h t ht)
  | object members ih =>
    simp only [canonical_object, forall_mem_strings_object, List.forall_mem_map] at h ⊢
    intro m hm
    -- the ordered form may leave members out, but it has no others
    have hmem := mem_of_mem_orderEntries hm
    exact ih m hmem (h m hmem)

end RunQuery.Tree

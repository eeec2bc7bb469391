/-!
# Dictionaries in key order

A finite map kept as the list of its entries in strictly increasing key order. The order is part
of the type, so two dictionaries with the same look-ups are the same list, and everything that is
printed or derived from one comes out in the same order however it was filled.

Lists of pairs that are not known to be ordered, such as the members of an object read from a
text, are brought into this form by `insertEntry`: the last value written under a key wins.
-/

namespace RunQuery

universe u v

variable {κ : Type u} {α : Type v} {β : Type v} [Ord κ]

/-! ## Entry lists -/

/-- Entries in strictly increasing key order, hence without repeated keys. -/
def KeysIncrease (entries : List (κ × α)) : Prop :=
  entries.Pairwise fun a b ↦ compare a.1 b.1 = .lt

/-- The value under `k`, if any. -/
def lookupEntry (k : κ) : List (κ × α) → Option α
  | [] => none
  | (k', v) :: rest => if compare k k' = .eq then some v else lookupEntry k rest

/-- Write `v` under `k`, in key order, in place of what was there. -/
def insertEntry (k : κ) (v : α) : List (κ × α) → List (κ × α)
  | [] => [(k, v)]
  | (k', v') :: rest =>
    match compare k k' with
    | .lt => (k, v) :: (k', v') :: rest
    | .eq => (k, v) :: rest
    | .gt => (k', v') :: insertEntry k v rest

/-- Write the entries from left to right into an ordered list. -/
def insertEntries (entries : List (κ × α)) : List (κ × α) → List (κ × α) :=
  entries.foldl fun acc e ↦ insertEntry e.1 e.2 acc

/-- The ordered form of a list of entries, in which the last entry of each key stands. -/
def orderEntries (entries : List (κ × α)) : List (κ × α) :=
  insertEntries entries []

theorem mem_insertEntry {k : κ} {v : α} {entries : List (κ × α)} {e : κ × α}
    (h : e ∈ insertEntry k v entries) : e = (k, v) ∨ e ∈ entries := by
  induction entries with
  | nil => simpa [insertEntry] using h
  | cons head rest ih =>
    obtain ⟨k', v'⟩ := head
    rw [insertEntry] at h
    split at h <;> grind

theorem KeysIncrease.insertEntry [Std.TransOrd κ] {k : κ} {v : α} {entries : List (κ × α)}
    (h : KeysIncrease entries) : KeysIncrease (insertEntry k v entries) := by
  induction entries with
  | nil => simp [KeysIncrease, RunQuery.insertEntry]
  | cons head rest ih =>
    obtain ⟨k', v'⟩ := head
    obtain ⟨hhead, hrest⟩ := List.pairwise_cons.1 h
    rw [RunQuery.insertEntry]
    split
    · next hlt =>
      refine List.pairwise_cons.2 ⟨fun e he ↦ ?_, h⟩
      rcases List.mem_cons.1 he with rfl | he
      · exact hlt
      · exact Std.TransCmp.lt_trans hlt (hhead e he)
    · next heq =>
      refine List.pairwise_cons.2 ⟨fun e he ↦ ?_, hrest⟩
      exact Std.TransCmp.lt_of_eq_of_lt heq (hhead e he)
    · next hgt =>
      refine List.pairwise_cons.2 ⟨fun e he ↦ ?_, ih hrest⟩
      rcases mem_insertEntry he with rfl | he
      · exact Std.OrientedCmp.lt_of_gt hgt
      · exact hhead e he

theorem KeysIncrease.insertEntries [Std.TransOrd κ] {entries : List (κ × α)}
    {acc : List (κ × α)} (h : KeysIncrease acc) : KeysIncrease (insertEntries entries acc) := by
  induction entries generalizing acc with
  | nil => exact h
  | cons e rest ih => exact ih h.insertEntry

theorem keysIncrease_orderEntries [Std.TransOrd κ] (entries : List (κ × α)) :
    KeysIncrease (orderEntries entries) :=
  KeysIncrease.insertEntries List.Pairwise.nil

/-- A key written is found, and no other look-up changes. -/
theorem lookupEntry_insertEntry [Std.TransOrd κ] (k k' : κ) (v : α) (entries : List (κ × α)) :
    lookupEntry k' (insertEntry k v entries) =
      if compare k' k = .eq then some v else lookupEntry k' entries := by
  induction entries with
  | nil => rfl
  | cons head rest ih =>
    obtain ⟨j, w⟩ := head
    rw [insertEntry]
    split
    · rfl
    · next heq =>
      simp only [lookupEntry]
      split
      · rfl
      · next hne =>
        rw [if_neg]
        intro h
        exact hne (Std.TransCmp.eq_trans h (Std.OrientedCmp.eq_symm heq))
    · next hgt =>
      simp only [lookupEntry, ih]
      split
      · next h =>
        rw [if_neg]
        intro h'
        have := Std.TransCmp.eq_trans (Std.OrientedCmp.eq_symm h') h
        rw [hgt] at this
        contradiction
      · rfl

theorem lookupEntry_eq_none {k : κ} {entries : List (κ × α)}
    (h : ∀ e ∈ entries, compare k e.1 = .lt) : lookupEntry k entries = none := by
  induction entries with
  | nil => rfl
  | cons head rest ih =>
    obtain ⟨k', v⟩ := head
    have hlt : compare k k' = .lt := h _ List.mem_cons_self
    rw [lookupEntry, if_neg (by simp [hlt])]
    exact ih fun e he ↦ h e (List.mem_cons_of_mem _ he)

theorem KeysIncrease.lookupEntry_tail {k : κ} {v : α} {rest : List (κ × α)}
    (h : KeysIncrease ((k, v) :: rest)) : lookupEntry k rest = none :=
  lookupEntry_eq_none (List.pairwise_cons.1 h).1

theorem KeysIncrease.eq_of_lookupEntry [Std.TransOrd κ] [Std.LawfulEqOrd κ]
    {entries others : List (κ × α)} (h : KeysIncrease entries) (h' : KeysIncrease others)
    (heq : ∀ k, lookupEntry k entries = lookupEntry k others) : entries = others := by
  induction entries generalizing others with
  | nil =>
    cases others with
    | nil => rfl
    | cons e _ => simpa [lookupEntry] using heq e.1
  | cons d rest ih =>
    cases others with
    | nil => simpa [lookupEntry] using heq d.1
    | cons e rest' =>
      obtain ⟨a, v⟩ := d
      obtain ⟨b, w⟩ := e
      obtain ⟨hfirst, hrest⟩ := List.pairwise_cons.1 h
      obtain ⟨hfirst', hrest'⟩ := List.pairwise_cons.1 h'
      have hab : a = b := by
        match hc : compare a b with
        | .eq => exact Std.LawfulEqCmp.eq_of_compare hc
        | .lt =>
          have hnone : lookupEntry a ((b, w) :: rest') = none := lookupEntry_eq_none fun e he ↦ by
            rcases List.mem_cons.1 he with rfl | he
            · exact hc
            · exact Std.TransCmp.lt_trans hc (hfirst' e he)
          have hsome := heq a
          rw [hnone] at hsome
          simp [lookupEntry] at hsome
        | .gt =>
          have hba := Std.OrientedCmp.lt_of_gt hc
          have hnone : lookupEntry b ((a, v) :: rest) = none := lookupEntry_eq_none fun e he ↦ by
            rcases List.mem_cons.1 he with rfl | he
            · exact hba
            · exact Std.TransCmp.lt_trans hba (hfirst e he)
          have hsome := heq b
          rw [hnone] at hsome
          simp [lookupEntry] at hsome
      subst hab
      have hvw : v = w := by simpa [lookupEntry] using heq a
      subst hvw
      refine congrArg _ (ih hrest hrest' fun k ↦ ?_)
      by_cases hk : compare k a = .eq
      · have hka : k = a := Std.LawfulEqCmp.eq_of_compare hk
        subst hka
        rw [h.lookupEntry_tail, h'.lookupEntry_tail]
      · simpa [lookupEntry, hk] using heq k

/-! ## Dictionaries -/

/-- A finite map from keys to values, its entries in strictly increasing key order. -/
structure Dict (κ : Type u) (α : Type v) [Ord κ] where
  /-- The entries, in key order. -/
  toList : List (κ × α)
  /-- The order is strict, so that no key occurs twice. -/
  keysIncrease : KeysIncrease toList

namespace Dict

variable [Std.TransOrd κ]

/-- The dictionary without entries. -/
def empty : Dict κ α := ⟨[], List.Pairwise.nil⟩

instance : Inhabited (Dict κ α) := ⟨empty⟩

omit [Std.TransOrd κ] in
@[ext] theorem ext {d e : Dict κ α} (h : d.toList = e.toList) : d = e := by
  cases d; cases e; cases h; rfl

instance [DecidableEq κ] [DecidableEq α] : DecidableEq (Dict κ α) := fun d e ↦
  decidable_of_iff (d.toList = e.toList) ⟨Dict.ext, fun h ↦ h ▸ rfl⟩

/-- The value under `k`, if any. -/
def get? (d : Dict κ α) (k : κ) : Option α := lookupEntry k d.toList

/-- Write `v` under `k`, in place of what was there. -/
def insert (d : Dict κ α) (k : κ) (v : α) : Dict κ α :=
  ⟨insertEntry k v d.toList, d.keysIncrease.insertEntry⟩

/-- The dictionary of a list of entries, in which the last entry of each key stands. -/
def ofList (entries : List (κ × α)) : Dict κ α :=
  ⟨orderEntries entries, keysIncrease_orderEntries entries⟩

/-- The keys, in order. -/
def keys (d : Dict κ α) : List κ := d.toList.map Prod.fst

/-- Is there nothing under any key? -/
def isEmpty (d : Dict κ α) : Bool := d.toList.isEmpty

omit [Std.TransOrd κ] in
theorem keysIncrease_mapValues (f : α → β) {entries : List (κ × α)} (h : KeysIncrease entries) :
    KeysIncrease (entries.map fun e ↦ (e.1, f e.2)) :=
  List.pairwise_map.2 (h.imp fun hab ↦ hab)

def mapValues (f : α → β) (d : Dict κ α) : Dict κ β :=
  ⟨d.toList.map fun e ↦ (e.1, f e.2), keysIncrease_mapValues f d.keysIncrease⟩

@[simp] theorem get?_insert (d : Dict κ α) (k k' : κ) (v : α) :
    (d.insert k v).get? k' = if compare k' k = .eq then some v else d.get? k' :=
  lookupEntry_insertEntry k k' v d.toList

@[simp] theorem ofList_concat (entries : List (κ × α)) (k : κ) (v : α) :
    ofList (entries ++ [(k, v)]) = (ofList entries).insert k v :=
  Dict.ext (List.foldl_append ..)

/-- A dictionary is determined by its look-ups. -/
theorem ext_get? [Std.LawfulEqOrd κ] {d e : Dict κ α} (h : ∀ k, d.get? k = e.get? k) : d = e :=
  Dict.ext (d.keysIncrease.eq_of_lookupEntry e.keysIncrease h)

end Dict

end RunQuery

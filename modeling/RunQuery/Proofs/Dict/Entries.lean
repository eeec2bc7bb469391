import Mathlib.Data.List.Induction
import Mathlib.Data.List.Nodup
import RunQuery.Dict

/-!
# Entries in key order

Look-ups in lists of entries, and the ordered form of a list. Entries that are in order already are
their own ordered form, and what was written last under a key is what is found there.
-/

namespace RunQuery

universe u v w

variable {κ : Type u} {α : Type v} {β : Type w} [Ord κ]

theorem keysIncrease_of_map_fst {entries : List (κ × α)} {keys : List κ}
    (h : entries.map Prod.fst = keys) (hkeys : keys.Pairwise fun k k' ↦ compare k k' = .lt) :
    KeysIncrease entries := by
  rw [← h, List.pairwise_map] at hkeys
  exact hkeys

/-! ## Look-ups and members -/

section

variable [Std.LawfulEqOrd κ] {k : κ} {v : α}

theorem mem_of_lookupEntry {entries : List (κ × α)} (h : lookupEntry k entries = some v) :
    (k, v) ∈ entries := by
  induction entries with
  | nil => cases h
  | cons head rest ih =>
    obtain ⟨k', v'⟩ := head
    rw [lookupEntry] at h
    split at h
    · next heq =>
      obtain rfl : k = k' := Std.LawfulEqCmp.eq_of_compare heq
      obtain rfl := Option.some.inj h
      exact List.mem_cons_self
    · exact List.mem_cons_of_mem _ (ih h)

theorem lookupEntry_of_mem {entries : List (κ × α)} (h : (entries.map Prod.fst).Nodup)
    (hmem : (k, v) ∈ entries) : lookupEntry k entries = some v := by
  induction entries with
  | nil => cases hmem
  | cons head rest ih =>
    rw [List.map_cons, List.nodup_cons] at h
    obtain ⟨k', v'⟩ := head
    rw [lookupEntry]
    obtain heq | hlater := List.mem_cons.mp hmem
    · obtain ⟨rfl, rfl⟩ := Prod.mk.inj heq
      rw [if_pos Std.ReflCmp.compare_self]
    · have hne : compare k k' ≠ .eq := by
        intro heq
        obtain rfl : k = k' := Std.LawfulEqCmp.eq_of_compare heq
        exact h.1 (List.mem_map.mpr ⟨_, hlater, rfl⟩)
      rw [if_neg hne, ih h.2 hlater]

theorem lookupEntry_eq_some_iff {entries : List (κ × α)} (h : (entries.map Prod.fst).Nodup) :
    lookupEntry k entries = some v ↔ (k, v) ∈ entries :=
  ⟨mem_of_lookupEntry, lookupEntry_of_mem h⟩

theorem KeysIncrease.nodup {entries : List (κ × α)} (h : KeysIncrease entries) :
    (entries.map Prod.fst).Nodup := by
  refine List.pairwise_map.mpr (h.imp fun {a b} hlt heq ↦ ?_)
  have hself : compare b.1 b.1 = .eq := Std.ReflCmp.compare_self
  rw [heq, hself] at hlt
  cases hlt

@[simp] theorem Dict.mem_toList_iff {d : Dict κ α} : (k, v) ∈ d.toList ↔ d.get? k = some v :=
  (lookupEntry_eq_some_iff d.keysIncrease.nodup).symm

theorem Dict.mem_keys_iff {d : Dict κ α} : k ∈ d.keys ↔ ∃ v, d.get? k = some v := by
  rw [Dict.keys, List.mem_map]
  constructor
  · rintro ⟨⟨k, v⟩, hmem, rfl⟩
    exact ⟨v, by simpa using hmem⟩
  · rintro ⟨v, hget⟩
    exact ⟨(k, v), by simpa using hget, rfl⟩

/-- Entries that are left out by their keys are not found, and no other look-up changes. -/
theorem lookupEntry_filter (keep : κ → Bool) (k : κ) (entries : List (κ × α)) :
    lookupEntry k (entries.filter fun e ↦ keep e.1)
      = if keep k then lookupEntry k entries else none := by
  induction entries with
  | nil => rw [List.filter_nil, lookupEntry, ite_self]
  | cons e rest ih =>
    rw [List.filter_cons, lookupEntry]
    by_cases heq : compare k e.1 = .eq
    · have hkey : k = e.1 := Std.LawfulEqCmp.eq_of_compare heq
      rw [if_pos heq, ← hkey]
      cases hkeep : keep k with
      | true => exact if_pos heq
      | false => exact ih.trans (if_neg (ne_true_of_eq_false hkeep))
    · rw [if_neg heq, ← ih]
      split
      · exact if_neg heq
      · rfl

end

/-! ## Changed values -/

section

variable (f : α → β) (k : κ)

@[simp] theorem lookupEntry_map (entries : List (κ × α)) :
    lookupEntry k (entries.map fun e ↦ (e.1, f e.2)) = (lookupEntry k entries).map f := by
  induction entries with
  | nil => rfl
  | cons e rest ih =>
    rw [List.map_cons, lookupEntry, lookupEntry, ih]
    split <;> rfl

theorem insertEntry_map (v : α) (entries : List (κ × α)) :
    insertEntry k (f v) (entries.map fun e ↦ (e.1, f e.2))
      = (insertEntry k v entries).map fun e ↦ (e.1, f e.2) := by
  induction entries with
  | nil => rfl
  | cons e rest ih =>
    rw [List.map_cons, insertEntry, insertEntry]
    split
    · rfl
    · rfl
    · rw [ih, List.map_cons]

theorem insertEntries_map (entries acc : List (κ × α)) :
    insertEntries (entries.map fun e ↦ (e.1, f e.2)) (acc.map fun e ↦ (e.1, f e.2))
      = (insertEntries entries acc).map fun e ↦ (e.1, f e.2) := by
  induction entries generalizing acc with
  | nil => rfl
  | cons e rest ih =>
    change insertEntries _ (insertEntry e.1 (f e.2) _) = _
    rw [insertEntry_map, ih]
    rfl

theorem orderEntries_map (entries : List (κ × α)) :
    orderEntries (entries.map fun e ↦ (e.1, f e.2))
      = (orderEntries entries).map fun e ↦ (e.1, f e.2) :=
  insertEntries_map f entries []

end

/-! ## The ordered form -/

theorem mem_of_mem_orderEntries {entries : List (κ × α)} {e : κ × α}
    (h : e ∈ orderEntries entries) : e ∈ entries := by
  have hfold : ∀ (rest acc : List (κ × α)), e ∈ insertEntries rest acc → e ∈ rest ∨ e ∈ acc := by
    intro rest
    induction rest with
    | nil => exact fun acc hmem ↦ .inr hmem
    | cons d rest ih =>
      intro acc hmem
      obtain hrest | hacc := ih _ hmem
      · exact .inl (List.mem_cons_of_mem _ hrest)
      obtain rfl | hacc := mem_insertEntry hacc
      · exact .inl List.mem_cons_self
      · exact .inr hacc
  exact (hfold entries [] h).resolve_right List.not_mem_nil

variable [Std.TransOrd κ]

theorem insertEntry_of_forall_lt {k : κ} {v : α} {entries : List (κ × α)}
    (h : ∀ e ∈ entries, compare e.1 k = .lt) : insertEntry k v entries = entries ++ [(k, v)] := by
  induction entries with
  | nil => rfl
  | cons e rest ih =>
    obtain ⟨hfirst, hrest⟩ := List.forall_mem_cons.mp h
    rw [insertEntry, Std.OrientedCmp.gt_of_lt hfirst, ih hrest, List.cons_append]

theorem KeysIncrease.orderEntries_eq {entries : List (κ × α)} (h : KeysIncrease entries) :
    orderEntries entries = entries := by
  have hfold : ∀ rest acc : List (κ × α), KeysIncrease (acc ++ rest) →
      RunQuery.insertEntries rest acc = acc ++ rest := by
    intro rest
    induction rest with
    | nil => exact fun acc _ ↦ (List.append_nil acc).symm
    | cons e rest ih =>
      intro acc hacc
      have hlast : ∀ d ∈ acc, compare d.1 e.1 = .lt :=
        fun d hd ↦ (List.pairwise_append.mp hacc).2.2 d hd e List.mem_cons_self
      change RunQuery.insertEntries rest (RunQuery.insertEntry e.1 e.2 acc) = _
      rw [insertEntry_of_forall_lt hlast, ih]
      · rw [List.append_assoc, List.singleton_append]
      · rwa [List.append_assoc, List.singleton_append]
  exact hfold entries [] h

/-- What was written last under a key is found, or else what was there before. -/
theorem lookupEntry_insertEntries (k : κ) (entries acc : List (κ × α)) :
    lookupEntry k (insertEntries entries acc)
      = (lookupEntry k entries.reverse).or (lookupEntry k acc) := by
  induction entries using List.reverseRecOn with
  | nil => rfl
  | append_singleton entries e ih =>
    have hlast : insertEntries (entries ++ [e]) acc
        = insertEntry e.1 e.2 (insertEntries entries acc) := List.foldl_append ..
    rw [hlast, lookupEntry_insertEntry, List.reverse_concat, lookupEntry]
    split
    · rfl
    · exact ih

@[simp] theorem lookupEntry_orderEntries (k : κ) (entries : List (κ × α)) :
    lookupEntry k (orderEntries entries) = lookupEntry k entries.reverse := by
  rw [orderEntries, lookupEntry_insertEntries, lookupEntry, Option.or_none]

/-- Where no key stands twice, the order does not matter. -/
theorem lookupEntry_orderEntries_of_nodup [Std.LawfulEqOrd κ] {entries : List (κ × α)}
    (h : (entries.map Prod.fst).Nodup) (k : κ) :
    lookupEntry k (orderEntries entries) = lookupEntry k entries := by
  have hreverse : (entries.reverse.map Prod.fst).Nodup := by
    rw [List.map_reverse]
    exact List.pairwise_reverse.mpr (h.imp Ne.symm)
  rw [lookupEntry_orderEntries]
  refine Option.ext fun v ↦ ?_
  rw [lookupEntry_eq_some_iff hreverse, lookupEntry_eq_some_iff h, List.mem_reverse]

namespace Dict

@[simp] theorem get?_insert_self (d : Dict κ α) (k : κ) (v : α) :
    (d.insert k v).get? k = some v := by
  rw [get?_insert, if_pos Std.ReflCmp.compare_self]

theorem get?_insert_of_ne [Std.LawfulEqOrd κ] {k k' : κ} (h : k' ≠ k) (d : Dict κ α) (v : α) :
    (d.insert k v).get? k' = d.get? k' := by
  have hcompare : compare k' k ≠ .eq := fun heq ↦ h (Std.LawfulEqCmp.eq_of_compare heq)
  rw [get?_insert, if_neg hcompare]

/-- Under a key stands the last of the values that are written there. -/
theorem get?_ofList_map [Std.LawfulEqOrd κ] [DecidableEq κ] {ι : Type*} (key : ι → κ)
    (value : ι → α) (l : List ι) (k : κ) :
    (ofList (l.map fun i ↦ (key i, value i))).get? k
      = (l.filter fun i ↦ key i = k).getLast?.map value := by
  induction l using List.reverseRecOn with
  | nil => rfl
  | append_singleton l i ih =>
    by_cases hk : key i = k
    · subst hk
      simp
    · simp [get?_insert_of_ne (Ne.symm hk), ih, hk]

@[simp] theorem mem_keys_ofList_iff [Std.LawfulEqOrd κ] {entries : List (κ × α)} {k : κ} :
    k ∈ (ofList entries).keys ↔ k ∈ entries.map Prod.fst := by
  induction entries using List.reverseRecOn with
  | nil => exact Iff.rfl
  | append_singleton entries e ih =>
    rw [List.map_append, List.mem_append, ← ih, mem_keys_iff, mem_keys_iff, ofList_concat]
    by_cases hk : k = e.1
    · simp [hk]
    · simp [get?_insert_of_ne hk, hk]

/-- Write the entries of a list from left to right. -/
def insertAll (d : Dict κ α) (entries : List (κ × α)) : Dict κ α :=
  entries.foldl (fun d e ↦ d.insert e.1 e.2) d

theorem toList_insertAll (d : Dict κ α) (entries : List (κ × α)) :
    (d.insertAll entries).toList = insertEntries entries d.toList := by
  induction entries generalizing d with
  | nil => rfl
  | cons e rest ih => exact ih (d.insert e.1 e.2)

@[simp] theorem insertAll_empty (entries : List (κ × α)) :
    empty.insertAll entries = ofList entries :=
  Dict.ext (toList_insertAll empty entries)

theorem get?_insertAll_of_not_mem [Std.LawfulEqOrd κ] {d : Dict κ α} {entries : List (κ × α)}
    {k : κ} (h : k ∉ entries.map Prod.fst) : (d.insertAll entries).get? k = d.get? k := by
  have hnone : lookupEntry k entries.reverse = none := by
    rw [Option.eq_none_iff_forall_ne_some]
    intro v hv
    exact h (List.mem_map.mpr ⟨_, List.mem_reverse.mp (mem_of_lookupEntry hv), rfl⟩)
  rw [get?, toList_insertAll, lookupEntry_insertEntries, hnone, Option.none_or, get?]

omit [Std.TransOrd κ] in
theorem mapValues_eq_self_iff {f : α → α} {d : Dict κ α} :
    d.mapValues f = d ↔ ∀ e ∈ d.toList, f e.2 = e.2 := by
  rw [Dict.ext_iff]
  change d.toList.map (fun e ↦ (e.1, f e.2)) = d.toList ↔ _
  constructor
  · intro h e he
    rw [← List.map_id' d.toList, List.map_map, List.map_inj_left] at h
    exact congrArg Prod.snd (h e he)
  · intro h
    rw [List.map_congr_left fun e he ↦ congrArg (Prod.mk e.1) (h e he), List.map_id']

@[simp] theorem ofList_toList (d : Dict κ α) : ofList d.toList = d :=
  Dict.ext d.keysIncrease.orderEntries_eq

section

variable [Std.LawfulEqOrd κ] {entries others : List (κ × α)}

theorem toList_ofList_perm (h : (entries.map Prod.fst).Nodup) :
    (ofList entries).toList.Perm entries := by
  have hordered : (ofList entries).toList.Nodup :=
    .of_map Prod.fst (ofList entries).keysIncrease.nodup
  apply (List.perm_ext_iff_of_nodup hordered (.of_map Prod.fst h)).mpr
  intro e
  rw [Dict.mem_toList_iff, get?, ← lookupEntry_eq_some_iff h]
  exact iff_of_eq (congrArg (· = some e.2) (lookupEntry_orderEntries_of_nodup h e.1))

/-- Where no key stands twice, the order in which entries are written does not matter. -/
theorem ofList_eq_of_perm (h : (entries.map Prod.fst).Nodup) (hperm : entries.Perm others) :
    ofList entries = ofList others := by
  have h' : (others.map Prod.fst).Nodup := (hperm.map Prod.fst).nodup_iff.mp h
  refine ext_get? fun k ↦ Option.ext fun v ↦ ?_
  rw [get?, get?, ofList, ofList, lookupEntry_orderEntries_of_nodup h,
    lookupEntry_orderEntries_of_nodup h', lookupEntry_eq_some_iff h, lookupEntry_eq_some_iff h']
  exact hperm.mem_iff

end

end Dict

end RunQuery

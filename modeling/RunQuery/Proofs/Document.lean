import RunQuery.Document
import RunQuery.Proofs.Tree.Canonical

/-!
# JSON data as documents

## Records

The fields of a record are parts of the document, and have no other numbers than it. Where no name
stands twice they are found by look-ups, whatever order the members are in. So a record is read
alike from an object and from its canonical form.

A part that may be absent is written in one of two ways: as null, or not at all. Either way it is
read back.
-/

namespace RunQuery.Document

/-! ## Texts, lists and absence -/

@[simp] theorem text?_string (s : String) : text? (Tree.string s : Json) = some s := rfl

@[simp] theorem isNull_string (s : String) : isNull (Tree.string s : Json) = false := rfl

@[simp] theorem orElse?_some {α : Type} (read : Json → Option α) (default : α) (d : Json) :
    orElse? read default (some d) = read d := rfl

@[simp] theorem orAbsent?_some {α : Type} (read : Json → Option α) (d : Json) :
    orAbsent? read (some d) = orNull? read d := rfl

section

variable {α β : Type*} {read : α → Option β} {as : List α} {bs : List β}

theorem mapM_eq_some_iff : as.mapM read = some bs ↔ as.map read = bs.map some := by
  induction as generalizing bs with
  | nil =>
    rw [List.mapM_nil, List.map_nil, @eq_comm _ [], List.map_eq_nil_iff]
    exact Option.some_inj.trans eq_comm
  | cons a as ih =>
    cases bs with
    | nil =>
      refine iff_of_false ?_ nofun
      rw [List.mapM_cons]
      simp [Option.bind_eq_some_iff]
    | cons b bs =>
      rw [List.mapM_cons, List.map_cons, List.map_cons, List.cons.injEq, ← ih]
      simp [Option.bind_eq_some_iff]

theorem mapM_eq_some {f : α → β} (h : ∀ a ∈ as, read a = some (f a)) :
    as.mapM read = some (as.map f) := by
  rw [mapM_eq_some_iff, List.map_map]
  exact List.map_congr_left h

theorem exists_of_mem_mapM (h : as.mapM read = some bs) :
    ∀ b ∈ bs, ∃ a ∈ as, read a = some b := by
  intro b hb
  have hmem : some b ∈ as.map read := mapM_eq_some_iff.mp h ▸ List.mem_map_of_mem hb
  exact List.mem_map.mp hmem

theorem exists_mem_of_mapM (h : as.mapM read = some bs) :
    ∀ a ∈ as, ∃ b ∈ bs, read a = some b := by
  intro a ha
  have hmem : read a ∈ bs.map some := mapM_eq_some_iff.mp h ▸ List.mem_map_of_mem ha
  obtain ⟨b, hb, heq⟩ := List.mem_map.mp hmem
  exact ⟨b, hb, heq.symm⟩

end

@[simp] theorem canonical_ofTexts (texts : List String) :
    Tree.canonical (Json.ofTexts texts) = Json.ofTexts texts :=
  Tree.isCanonical_array_iff.mpr (List.forall_mem_map.mpr fun _ _ ↦ rfl)

@[simp] theorem list?_text?_ofTexts (texts : List String) :
    list? text? (Json.ofTexts texts) = some texts := by
  change (texts.map Tree.string).mapM Tree.string? = some texts
  rw [List.mapM_map]
  exact (mapM_eq_some fun text _ ↦ rfl).trans (congrArg some (List.map_id' texts))

section Absence

variable {α : Type} {read : Json → Option α} {write : α → Json} {value : Option α}

theorem canonical_ofOption (write : α → Json) (value : Option α) :
    Tree.canonical (Json.ofOption write value)
      = Json.ofOption (fun a ↦ (write a).canonical) value := by
  cases value with
  | none => rfl
  | some a => rfl

/-- A value that may be absent is read back where it is written as null then. -/
theorem orNull?_ofOption (hread : ∀ a ∈ value, read (write a) = some a)
    (hnull : ∀ a, isNull (write a) = false) :
    orNull? read (Json.ofOption write value) = some value := by
  cases value with
  | none => rfl
  | some a =>
    change orNull? read (write a) = some (some a)
    rw [orNull?, hnull a, hread a rfl]
    rfl

/-- A value that may be absent is read back where it is not written then. -/
theorem orAbsent?_map (hread : ∀ a ∈ value, read (write a) = some a)
    (hnull : ∀ a, isNull (write a) = false) :
    orAbsent? read (value.map write) = some value := by
  cases value with
  | none => rfl
  | some a => exact orNull?_ofOption hread hnull

theorem forall_mem_of_orAbsent? {field : Option Json} (h : orAbsent? read field = some value) :
    ∀ a ∈ value, ∃ d ∈ field, read d = some a := by
  rintro a rfl
  cases field with
  | none => cases h
  | some d =>
    rw [orAbsent?_some, orNull?] at h
    split at h
    · cases h
    · obtain ⟨b, hb, heq⟩ := Option.map_eq_some_iff.mp h
      cases heq
      exact ⟨d, rfl, hb⟩

theorem orElse?_cases {field : Option Json} {default a : α}
    (h : orElse? read default field = some a) : a = default ∨ ∃ d ∈ field, read d = some a := by
  cases field with
  | none =>
    cases h
    exact .inl rfl
  | some d => exact .inr ⟨d, rfl, h⟩

end Absence

/-! ## Records -/

variable {members : List (String × Json)}

theorem filter_labelled (h : (members.map Prod.fst).Nodup) (name : String) (number : Nat) :
    (Json.labelled members).filter (fun m ↦ m.1 == .name name || m.1 == .number number)
      = ((lookupEntry name members).map (Label.name name, ·)).toList := by
  induction members with
  | nil => rfl
  | cons m rest ih =>
    rw [List.map_cons, List.nodup_cons] at h
    obtain ⟨k, v⟩ := m
    rw [Json.labelled, List.map_cons, ← Json.labelled, List.filter_cons, ih h.2, lookupEntry]
    by_cases hk : name = k
    · -- the name does not stand in the rest again
      subst hk
      have hrest : lookupEntry name rest = none := by
        rw [Option.eq_none_iff_forall_ne_some]
        intro w hw
        exact h.1 (List.mem_map.mpr ⟨_, mem_of_lookupEntry hw, rfl⟩)
      rw [hrest]
      simp
    · have hne : compare name k ≠ .eq := fun heq ↦ hk (Std.LawfulEqCmp.eq_of_compare heq)
      have hlabel : (Label.name k == .name name || Label.name k == .number number) = false := by
        simp [Ne.symm hk]
      rw [if_neg hne, if_neg (by rw [hlabel]; decide)]

theorem uniqueMember?_labelled (h : (members.map Prod.fst).Nodup) (name : String) (number : Nat) :
    uniqueMember? name number (Json.labelled members) = some (lookupEntry name members) := by
  rw [uniqueMember?, filter_labelled h]
  cases lookupEntry name members with
  | none => rfl
  | some v => rfl

/-- What can be a field of a record: an item of a list, or the value of a member. -/
def children : Json → List Json
  | .array items => items
  | .object members => members.map Prod.snd
  | _ => []

theorem mem_of_uniqueMember? {name : String} {number : Nat} {labelled : List (Label × Json)}
    {d : Json} (h : uniqueMember? name number labelled = some (some d)) :
    ∃ label, (label, d) ∈ labelled := by
  rw [uniqueMember?] at h
  split at h
  · cases h
  · next label value hfilter =>
    cases h
    have hmem := hfilter ▸ List.mem_singleton_self (label, d)
    exact ⟨label, (List.mem_filter.mp hmem).1⟩
  · cases h

theorem mem_children_of_fieldsOfMembers? {fields : List (String × Presence)} {number : Nat}
    {values : List (Option Json)}
    (h : fieldsOfMembers? (Json.labelled members) number fields = some values) :
    ∀ value ∈ values, ∀ d ∈ value, d ∈ children (.object members) := by
  induction fields generalizing number values with
  | nil =>
    cases h
    exact nofun
  | cons field fields ih =>
    rw [fieldsOfMembers?] at h
    obtain ⟨first, hfirst, h⟩ := Option.bind_eq_some_iff.mp h
    split at h
    · cases h
    · obtain ⟨rest, hrest, heq⟩ := Option.bind_eq_some_iff.mp h
      cases heq
      refine List.forall_mem_cons.mpr ⟨?_, ih hrest⟩
      rintro d rfl
      obtain ⟨label, hlabel⟩ := mem_of_uniqueMember? hfirst
      obtain ⟨m, hm, heq⟩ := List.mem_map.mp hlabel
      cases heq
      exact List.mem_map_of_mem hm

theorem mem_of_fieldsOfItems? {more : Bool} {fields : List (String × Presence)} {items : List Json}
    {values : List (Option Json)} (h : fieldsOfItems? more items fields = some values) :
    ∀ value ∈ values, ∀ d ∈ value, d ∈ items := by
  induction fields generalizing items values with
  | nil =>
    cases items with
    | nil =>
      cases h
      exact nofun
    | cons item items =>
      -- items that are left over give no fields
      rw [fieldsOfItems?] at h
      split at h
      · cases h
        exact nofun
      · cases h
  | cons field fields ih =>
    cases items with
    | nil =>
      rw [fieldsOfItems?] at h
      split at h
      · obtain ⟨rest, hrest, rfl⟩ := Option.map_eq_some_iff.mp h
        exact List.forall_mem_cons.mpr ⟨nofun, ih hrest⟩
      · cases h
    | cons item items =>
      rw [fieldsOfItems?] at h
      obtain ⟨rest, hrest, rfl⟩ := Option.map_eq_some_iff.mp h
      refine List.forall_mem_cons.mpr ⟨?_, fun v hv d hd ↦ ?_⟩
      · rintro d ⟨⟩
        exact List.mem_cons_self
      · exact List.mem_cons_of_mem _ (ih hrest v hv d hd)

/-- **The fields of a record are parts of the document.** -/
theorem mem_children_of_fields? {json : Json} {fields : List (String × Presence)}
    {values : List (Option Json)} (h : fields? fields json = some values) :
    ∀ value ∈ values, ∀ d ∈ value, d ∈ children json := by
  cases json with
  | array items => exact mem_of_fieldsOfItems? h
  | object members => exact mem_children_of_fieldsOfMembers? h
  | _ => cases h

/-- What holds of all numbers of a document holds of those in the fields of its record. -/
theorem forall_mem_numbers_of_fields? {P : Json.Number → Prop} {json : Json}
    (h : ∀ n ∈ json.numbers, P n) {fields : List (String × Presence)} {values : List (Option Json)}
    (hfields : fields? fields json = some values) :
    ∀ value ∈ values, ∀ d ∈ value, ∀ n ∈ d.numbers, P n := by
  have hchildren : ∀ d ∈ children json, ∀ n ∈ d.numbers, P n := by
    cases json with
    | array items => exact Tree.forall_mem_numbers_array.mp h
    | object members => exact List.forall_mem_map.mpr (Tree.forall_mem_numbers_object.mp h)
    | _ => exact nofun
  exact fun value hvalue d hd ↦ hchildren d (mem_children_of_fields? hfields value hvalue d hd)

/-- What a look-up finds of a field, unless it has to be there and is not. -/
def lookupField? (members : List (String × Json)) (field : String × Presence) :
    Option (Option Json) :=
  let value := lookupEntry field.1 members
  if value.isNone ∧ field.2 = .required then none else some value

/-- **The fields of a record are found by look-ups.** -/
theorem fields?_object (h : (members.map Prod.fst).Nodup) (fields : List (String × Presence)) :
    fields? fields (Tree.object members : Json) = fields.mapM (lookupField? members) := by
  change fieldsOfMembers? (Json.labelled members) 0 fields = _
  generalize 0 = number
  induction fields generalizing number with
  | nil => rfl
  | cons field fields ih =>
    obtain ⟨name, presence⟩ := field
    rw [fieldsOfMembers?, uniqueMember?_labelled h, ih, List.mapM_cons, lookupField?]
    dsimp only [Option.bind_eq_bind, Option.bind_some]
    split
    · rfl
    · rfl

theorem map_fst_toList_sublist {α : Type*} (name : String) (write : α → Json) (value : Option α) :
    ((value.map fun a ↦ (name, write a)).toList.map Prod.fst).Sublist [name] := by
  cases value with
  | none => exact List.nil_sublist _
  | some a => exact .refl _

/-- The fields of the canonical form of a record are the canonical forms of its fields. -/
theorem fields?_canonical_object (h : (members.map Prod.fst).Nodup)
    (fields : List (String × Presence)) :
    fields? fields (Tree.object members : Json).canonical
      = fields.mapM fun field ↦ (lookupField? members field).map (Option.map Tree.canonical) := by
  have hordered := Dict.keysIncrease_mapValues Tree.canonical (keysIncrease_orderEntries members)
  rw [Tree.canonical_object, fields?_object hordered.nodup]
  refine congrArg (List.mapM · fields) (funext fun field ↦ ?_)
  rw [lookupField?, lookupField?, lookupEntry_map, lookupEntry_orderEntries_of_nodup h,
    apply_ite (Option.map (Option.map Tree.canonical)), Option.isNone_map]
  rfl

/-- **A record is read alike from an object and from its canonical form**, if its fields are
canonical. -/
theorem fields?_canonical (h : (members.map Prod.fst).Nodup)
    (hcanonical : ∀ m ∈ members, m.2.IsCanonical) (fields : List (String × Presence)) :
    fields? fields (Tree.object members : Json).canonical
      = fields? fields (Tree.object members : Json) := by
  rw [fields?_canonical_object h, fields?_object h]
  refine congrArg (List.mapM · fields) (funext fun field ↦ ?_)
  have hvalue : (lookupEntry field.1 members).map Tree.canonical = lookupEntry field.1 members :=
    (Option.map_congr fun v hv ↦ hcanonical _ (mem_of_lookupEntry hv)).trans Option.map_id'
  rw [lookupField?, apply_ite (Option.map (Option.map Tree.canonical)), Option.map_some, hvalue]
  rfl

end RunQuery.Document

import RunQuery.Filter.Wire
import RunQuery.Proofs.Json.Written
import RunQuery.Proofs.Key
import RunQuery.Proofs.Text.Percent
import RunQuery.Proofs.Value.NonFinite

/-!
# Filters in links

A filter that was read from data is read back from its link. Four layers are undone one after the
other: the bytes of the link, the characters of its text, the data of the text and the filter of the
data. The last one is where something could go wrong, since data that is no filter is written as it
was and must not be taken for a filter then, and a filter must be written so that it is taken for
the same one.

What reading gives is *normal*: its groups and leaves are written in the one form that reading
prefers, and its invalid nodes are data that reading has found to be no filter.
-/

namespace RunQuery

/-! ## Numbers that data can hold -/

theorem Json.Number.IsStored.isFinite_toDouble {n : Json.Number} (h : n.IsStored) :
    n.toDouble.isFinite = true := by
  cases n with
  | int n =>
    obtain ⟨hlow, hhigh⟩ := h
    exact Double.isFinite_ofInt (by omega)
  | float x => exact h

theorem Value.isFinite_of_mem_numbers_ofJson {json : Json} (h : ∀ n ∈ json.numbers, n.IsStored) :
    ∀ x ∈ (Value.ofJson json).numbers, x.isFinite = true := by
  rw [Value.ofJson_eq_graft, Tree.forall_mem_numbers_graft]
  refine ⟨fun n hn x hx ↦ ?_, fun _ _ ↦ nofun⟩
  obtain rfl := List.mem_singleton.mp hx
  exact (h n hn).isFinite_toDouble

theorem Value.isStored_of_mem_numbers_toJson (v : Value) : ∀ n ∈ v.toJson.numbers, n.IsStored := by
  rw [Value.toJson_eq_graft, Tree.forall_mem_numbers_graft]
  refine ⟨fun x _ n hn ↦ ?_, fun _ _ ↦ nofun⟩
  cases h : NonFinite.ofDouble? x with
  | none =>
    have hfinite := NonFinite.ofDouble?_eq_none_iff.mp h
    rw [Value.toJson_number hfinite] at hn
    obtain rfl := List.mem_singleton.mp hn
    exact hfinite
  | some w =>
    rw [Value.toJson_nonFinite h] at hn
    cases hn

namespace Key

/-- Is the section of a key called what it is? No key that is read has a known section under the
guise of an unknown one. -/
def HasProperSection (key : Key) : Prop := Section.ofName key.inSection.name = key.inSection

theorem hasProperSection_ofName (area name : String) :
    HasProperSection ⟨Section.ofName area, name⟩ :=
  congrArg Section.ofName (Section.name_ofName area)

theorem hasProperSection_of_parse? {text : String} {key : Key} (h : parse? text = some key) :
    key.HasProperSection :=
  Section.ofName_name_of_isKnown (isAddressable_of_parse? h).known

theorem hasProperSection_of_read? {json : Json} {key : Key} (h : read? json = some key) :
    key.HasProperSection := by
  unfold read? at h
  split at h
  · exact hasProperSection_of_parse? h
  · simp only [Option.bind_eq_bind, Option.bind_eq_some_iff, Option.pure_def,
      Option.some.injEq] at h
    obtain ⟨-, -, -, -, area, -, -, -, name, -, rfl⟩ := h
    exact hasProperSection_ofName area name

end Key

namespace Filter

/-! ## Normal filters -/

/-- What reading data gives. -/
inductive IsNormal : Filter → Prop
  /-- A group of normal filters. -/
  | group (op : Junction) (filters : List Filter) (h : ∀ f ∈ filters, IsNormal f) :
    IsNormal (group op filters)
  /-- A leaf whose section is called what it is, and whose literal is canonical data without numbers
  that are not finite. -/
  | leaf (c : Condition) (hsection : c.key.HasProperSection)
    (hcanonical : c.literal.IsCanonical) (hfinite : ∀ x ∈ c.literal.numbers, x.isFinite = true) :
    IsNormal (leaf c)
  /-- Canonical data that is no filter. -/
  | invalid (data : Json) (hcanonical : data.IsCanonical) (hstored : ∀ n ∈ data.numbers, n.IsStored)
    (hinvalid : ofJson data = invalid data) : IsNormal (invalid data)

@[simp] theorem listToJson_eq (filters : List Filter) :
    listToJson filters = filters.map toJson := by
  induction filters with
  | nil => rfl
  | cons f filters ih => rw [listToJson, ih, List.map_cons]

@[simp] theorem ofItems_eq (items : List Json) : ofItems items = items.map ofJson := by
  induction items with
  | nil => rfl
  | cons item items ih => rw [ofItems, ih, List.map_cons]

@[simp] theorem listsOfMembers_eq (members : List (String × Json)) :
    listsOfMembers members = members.map fun m ↦ (m.1, listOfJson? m.2) := by
  induction members with
  | nil => rfl
  | cons m members ih => rw [listsOfMembers, ih, List.map_cons]

theorem ofJson_object (members : List (String × Json)) :
    ofJson (.object members)
      = (ofMembers? members (listsOfMembers members)).getD (invalid (.object members)) := by
  rw [ofJson]

/-! ### The JSON form of a normal filter -/

theorem ofJson_group (op : Junction) (items : List Json) :
    ofJson (.object [("filters", .array items), ("op", .string op.word)])
      = group op (items.map ofJson) := by
  have hmembers : ofMembers? [("filters", .array items), ("op", .string op.word)]
      [("filters", some (ofItems items)), ("op", none)] = some (group op (ofItems items)) := by
    cases op with
    | and => rfl
    | or => rfl
  rw [ofJson_object, ← ofItems_eq]
  exact congrArg (Option.getD · _) hmembers

theorem ofJson_leaf (key : Key) (op : Operator) (literal : Json) :
    ofJson (.object [
      ("key", .object [("name", .string key.name), ("section", .string key.inSection.name)]),
      ("op", .string op.sign), ("value", literal)])
      = leaf ⟨⟨Section.ofName key.inSection.name, key.name⟩, op, Value.ofJson literal⟩ := by
  rw [ofJson_object]
  cases op with
  | eq => rfl
  | _ => rfl

theorem ofMembers?_of_sign {members : List (String × Json)}
    {lists : List (String × Option (List Filter))} {op : Operator}
    (h : lookupEntry "op" members = some (.string op.sign)) :
    ofMembers? members lists = (conditionOfMembers? op members).map leaf := by
  have hbind : ofMembers? members lists
      = (conditionOfMembers? op members).bind fun c ↦ some (leaf c) := by
    rw [ofMembers?, h]
    cases op with
    | eq => rfl
    | _ => rfl
  rw [hbind]
  cases conditionOfMembers? op members with
  | none => rfl
  | some c => rfl

/-- A leaf whose key is given by its text is read with the key that the text names. -/
theorem ofJson_leaf_text (text : String) (op : Operator) (literal : Json) :
    let data : Json := .object [("key", .string text), ("op", .string op.sign), ("value", literal)]
    ofJson data =
      match Key.parse? text with
      | none => invalid data
      | some key => leaf ⟨key, op, Value.ofJson literal⟩ := by
  intro data
  have hcondition : conditionOfMembers? op
      [("key", .string text), ("op", .string op.sign), ("value", literal)]
      = (Key.parse? text).bind fun key ↦ some ⟨key, op, Value.ofJson literal⟩ := rfl
  rw [ofJson_object, ofMembers?_of_sign rfl, hcondition]
  cases Key.parse? text with
  | none => rfl
  | some key => rfl

/-- **A normal filter is read back from its JSON form.** -/
theorem IsNormal.ofJson_toJson {f : Filter} (h : f.IsNormal) : ofJson f.toJson = f := by
  induction h with
  | group op filters h ih =>
    simp only [toJson, ofJson_group, listToJson_eq, List.map_map]
    exact congrArg _ ((List.map_congr_left ih).trans (List.map_id' _))
  | leaf c hsection hcanonical hfinite =>
    rw [toJson, ofJson_leaf, hsection, Value.ofJson_toJson_eq_self_iff.mpr hfinite]
  | invalid data hcanonical hstored hinvalid => exact hinvalid

theorem IsNormal.isCanonical_toJson {f : Filter} (h : f.IsNormal) : f.toJson.IsCanonical := by
  induction h with
  | group op filters h ih =>
    rw [toJson, listToJson_eq, Tree.isCanonical_object_iff]
    refine ⟨keysIncrease_of_map_fst (rfl : _ = ["filters", "op"]) (by decide), ?_⟩
    simp only [List.forall_mem_cons, Tree.isCanonical_array_iff, List.forall_mem_map]
    exact ⟨ih, rfl, List.forall_mem_nil _⟩
  | leaf c hsection hcanonical hfinite =>
    rw [toJson, Tree.isCanonical_object_iff]
    refine ⟨keysIncrease_of_map_fst (rfl : _ = ["key", "op", "value"]) (by decide), ?_⟩
    have hkey : (Tree.object [("name", .string c.key.name),
        ("section", .string c.key.inSection.name)] : Json).IsCanonical := by
      rw [Tree.isCanonical_object_iff]
      refine ⟨keysIncrease_of_map_fst (rfl : _ = ["name", "section"]) (by decide), ?_⟩
      simp only [List.forall_mem_cons]
      exact ⟨rfl, rfl, List.forall_mem_nil _⟩
    simp only [List.forall_mem_cons]
    exact ⟨hkey, rfl, Value.isCanonical_toJson hcanonical, List.forall_mem_nil _⟩
  | invalid data hcanonical hstored hinvalid => exact hcanonical

theorem IsNormal.isStored_of_mem_numbers {f : Filter} (h : f.IsNormal) :
    ∀ n ∈ f.toJson.numbers, n.IsStored := by
  induction h with
  | group op filters h ih =>
    rw [toJson, listToJson_eq, Tree.forall_mem_numbers_object]
    simp only [List.forall_mem_cons, Tree.forall_mem_numbers_array, List.forall_mem_map]
    exact ⟨ih, List.forall_mem_nil _, List.forall_mem_nil _⟩
  | leaf c hsection hcanonical hfinite =>
    rw [toJson, Tree.forall_mem_numbers_object]
    simp only [List.forall_mem_cons]
    exact ⟨List.forall_mem_nil _, List.forall_mem_nil _,
      c.literal.isStored_of_mem_numbers_toJson, List.forall_mem_nil _⟩
  | invalid data hcanonical hstored hinvalid => exact hstored

/-! ### Filters of data are normal -/

/-- What the filter of an object is: a group of the filters in one of its lists, or a leaf. -/
theorem ofMembers?_cases {members : List (String × Json)}
    {lists : List (String × Option (List Filter))} {f : Filter}
    (h : ofMembers? members lists = some f) :
    (∃ op name filters, lookupEntry name lists = some (some filters) ∧ f = group op filters) ∨
      ∃ keyData key op, lookupEntry "key" members = some keyData ∧ Key.read? keyData = some key ∧
        f = leaf ⟨key, op, Value.ofJson ((lookupEntry "value" members).getD .null)⟩ := by
  rw [ofMembers?] at h
  obtain ⟨word, -, h⟩ := Option.bind_eq_some_iff.mp h
  split at h
  · next junction hjunction =>
    obtain ⟨found, hfound, h⟩ := Option.bind_eq_some_iff.mp h
    obtain ⟨filters, rfl, heq⟩ := Option.bind_eq_some_iff.mp h
    cases heq
    obtain hfound | ⟨-, hfound⟩ := Option.or_eq_some_iff.mp hfound
    · exact .inl ⟨junction, _, filters, hfound, rfl⟩
    · exact .inl ⟨junction, _, filters, hfound, rfl⟩
  · obtain ⟨op, -, h⟩ := Option.bind_eq_some_iff.mp h
    obtain ⟨c, hc, heq⟩ := Option.bind_eq_some_iff.mp h
    cases heq
    obtain ⟨key, hkey, heq⟩ := Option.bind_eq_some_iff.mp hc
    cases heq
    obtain ⟨keyData, hdata, hread⟩ := Option.bind_eq_some_iff.mp hkey
    exact .inr ⟨keyData, key, op, hdata, hread, rfl⟩

theorem isNormal_ofJson_and_listOfJson? {json : Json} (hcanonical : json.IsCanonical)
    (hstored : ∀ n ∈ json.numbers, n.IsStored) :
    (ofJson json).IsNormal ∧
      ∀ filters, listOfJson? json = some filters → ∀ f ∈ filters, f.IsNormal := by
  -- both at once: an object looks for its filters inside of the lists that are its members
  induction json using Tree.induct with
  | null => exact ⟨.invalid _ hcanonical hstored (by rw [ofJson]), nofun⟩
  | bool b => exact ⟨.invalid _ hcanonical hstored (by rw [ofJson]), nofun⟩
  | number n => exact ⟨.invalid _ hcanonical hstored (by rw [ofJson]), nofun⟩
  | string s => exact ⟨.invalid _ hcanonical hstored (by rw [ofJson]), nofun⟩
  | array items ih =>
    refine ⟨?_, ?_⟩
    · rw [ofJson]
      exact .invalid _ hcanonical hstored (by rw [ofJson])
    · intro filters hfilters
      simp only [listOfJson?, ofItems_eq, Option.some.injEq] at hfilters
      subst hfilters
      rw [Tree.isCanonical_array_iff] at hcanonical
      rw [Tree.forall_mem_numbers_array] at hstored
      exact List.forall_mem_map.mpr fun t ht ↦ (ih t ht (hcanonical t ht) (hstored t ht)).1
  | object members ih =>
    refine ⟨?_, nofun⟩
    have hmembers := (Tree.isCanonical_object_iff.mp hcanonical).2
    have hnumbers := Tree.forall_mem_numbers_object.mp hstored
    rw [ofJson_object]
    cases hread : ofMembers? members (listsOfMembers members) with
    | none =>
      refine .invalid _ hcanonical hstored ?_
      rw [ofJson_object, hread]
      rfl
    | some f =>
      obtain ⟨op, name, filters, hlist, rfl⟩ | ⟨keyData, key, op, hdata, hkey, rfl⟩ :=
        ofMembers?_cases hread
      · simp only [listsOfMembers_eq, lookupEntry_map, Option.map_eq_some_iff] at hlist
        obtain ⟨value, hvalue, hfilters⟩ := hlist
        have hmem := mem_of_lookupEntry hvalue
        exact .group _ _ ((ih _ hmem (hmembers _ hmem) (hnumbers _ hmem)).2 filters hfilters)
      · have hliteral : ((lookupEntry "value" members).getD .null).IsCanonical ∧
            ∀ n ∈ ((lookupEntry "value" members).getD Tree.null).numbers, n.IsStored := by
          cases hvalue : lookupEntry "value" members with
          | none => exact ⟨rfl, nofun⟩
          | some value =>
            have hmem := mem_of_lookupEntry hvalue
            exact ⟨hmembers _ hmem, hnumbers _ hmem⟩
        exact .leaf _ (Key.hasProperSection_of_read? hkey) (Value.isCanonical_ofJson hliteral.1)
          (Value.isFinite_of_mem_numbers_ofJson hliteral.2)

/-- **What is read from data is normal.** -/
theorem isNormal_ofJson {json : Json} (hcanonical : json.IsCanonical)
    (hstored : ∀ n ∈ json.numbers, n.IsStored) : (ofJson json).IsNormal :=
  (isNormal_ofJson_and_listOfJson? hcanonical hstored).1

/-! ## Links -/

theorem IsNormal.ofLink_toLink {f : Filter} (h : f.IsNormal)
    (hdepth : f.toJson.depth ≤ Json.nestingLimit)
    (hfloats : ∀ x, Json.Number.float x ∈ f.toJson.numbers → (Json.Number.float x).ReadsBack) :
    ofLink f.toLink = .ok f := by
  have hparse : Json.parse (Json.compact f.toJson) = some f.toJson :=
    Json.parse_compact h.isCanonical_toJson h.isStored_of_mem_numbers hfloats hdepth
  rw [ofLink, toLink, Text.Percent.decode_encode]
  dsimp only
  rw [hparse]
  exact congrArg Except.ok h.ofJson_toJson

/-- **A filter that was read from data is read back from its link**, if its data is not nested too
deeply and no digits of its numbers are lost in reading; and the link has no other characters than
those that may stand in a link. -/
theorem ofLink_toLink_ofJson (json : Json) (hstored : ∀ n ∈ json.numbers, n.IsStored)
    (hdepth : (ofJson json.canonical).toJson.depth ≤ Json.nestingLimit)
    (hfloats : ∀ x, Json.Number.float x ∈ (ofJson json.canonical).toJson.numbers →
      (Json.Number.float x).ReadsBack) :
    ofLink (ofJson json.canonical).toLink = .ok (ofJson json.canonical) ∧
      Text.Percent.isLinkText (ofJson json.canonical).toLink.toList = true := by
  have hnormal : (ofJson json.canonical).IsNormal :=
    isNormal_ofJson json.isCanonical_canonical (Tree.forall_mem_numbers_canonical hstored)
  exact ⟨hnormal.ofLink_toLink hdepth hfloats, Text.Percent.isLinkText_encode _⟩

/-- Data of a group under its older name, with leaves whose keys are a text and an object, the
latter with a section that no run has, and with data that is no filter. -/
def assortedData : Json :=
  .object [("op", .string "OR"), ("children", .array [
    .object [("value", .number (.int 1)), ("key", .string "config:größe \"1\""),
      ("op", .string ">=")],
    .object [("key", .object [("section", .string "x"), ("name", .string "a:b")]),
      ("op", .string "=")],
    .object [("op", .string "="), ("value", .number (.int (-7)))]])]

/-- The filter of that data. -/
def assorted : Filter :=
  any [compare ⟨.config, "größe \"1\""⟩ .ge (.number (Double.ofInt 1)),
    compare ⟨.unknown "x", "a:b"⟩ .eq .null,
    invalid (.object [("op", .string "="), ("value", .number (.int (-7)))])]

theorem ofLink_toLink_ofJson_of_assorted :
    ofJson assortedData.canonical = assorted ∧ ofLink assorted.toLink = .ok assorted ∧
      Text.Percent.isLinkText assorted.toLink.toList = true := by
  have hfilter : ofJson assortedData.canonical = assorted := rfl
  have hnumbers : ∀ n ∈ assorted.toJson.numbers, n.ReadsBack := by decide +kernel
  have hlink := ofLink_toLink_ofJson assortedData (by decide)
  rw [hfilter] at hlink
  exact ⟨hfilter, hlink (by decide) fun x hx ↦ hnumbers _ hx⟩

end Filter

end RunQuery

import RunQuery.Proofs.Document
import RunQuery.Proofs.Filter.Link
import RunQuery.Query.Wire

/-!
# Queries survive their wire form

A query can be spelled in many ways and is written in one. The two directions meet in a condition
that says what reading leaves of all the spellings: the filters of a *normal* query are normal, no
known section stands in its keys under the guise of an unknown one, and its page size is a count.
Whatever is read is normal, since fields that were left out have normal values too; and a normal
query is read back from what is written of it, field by field.
-/

namespace RunQuery

/-! ## Reading back the parts of a query -/

@[simp] theorem SortOrder.read?_canonical_toJson (order : SortOrder) :
    read? order.toJson.canonical = some order := by
  rw [read?, toJson, Document.fields?_canonical_object]
  · obtain ⟨name, ascending⟩ := order
    cases name with
    | none => rfl
    | some name => rfl
  · exact (by decide : ["name", "ascending"].Nodup)

@[simp] theorem SectionColumns.read?_canonical_toJson (c : SectionColumns) :
    read? c.toJson.canonical = some c := by
  have hfields : Document.fields? [("auto", .optional), ("columns", .optional)] c.toJson.canonical
      = some [some (Json.ofOption .bool c.auto).canonical,
          some (Json.ofTexts c.columns).canonical] := by
    rw [toJson, Document.fields?_canonical_object]
    · rfl
    · exact (by decide : ["auto", "columns"].Nodup)
  have hauto : Document.orNull? Document.bool? (Json.ofOption .bool c.auto).canonical
      = some c.auto := by
    rw [Document.canonical_ofOption]
    exact Document.orNull?_ofOption (fun _ _ ↦ rfl) fun _ ↦ rfl
  rw [read?, hfields]
  simp only [Document.orAbsent?_some, Document.orElse?_some, hauto, Document.canonical_ofTexts,
    Document.list?_text?_ofTexts, Option.bind_eq_bind, Option.bind_some]
  rfl

@[simp] theorem ColumnChoice.read?_canonical_toJson (c : ColumnChoice) :
    read? c.toJson.canonical = some c := by
  have hfields : Document.fields? [("config", .optional), ("summary", .optional)] c.toJson.canonical
      = some [some (Json.ofOption SectionColumns.toJson c.config).canonical,
          some (Json.ofOption SectionColumns.toJson c.summary).canonical] := by
    rw [toJson, Document.fields?_canonical_object]
    · rfl
    · exact (by decide : ["config", "summary"].Nodup)
  have hsection (columns : Option SectionColumns) :
      Document.orNull? SectionColumns.read? (Json.ofOption SectionColumns.toJson columns).canonical
        = some columns := by
    rw [Document.canonical_ofOption]
    exact Document.orNull?_ofOption (fun c _ ↦ c.read?_canonical_toJson) fun _ ↦ rfl
  rw [read?, hfields]
  simp only [Document.orAbsent?_some, hsection, Option.bind_eq_bind, Option.bind_some]
  rfl

@[simp] theorem Level.read?_name (level : Level) :
    read? (Tree.string level.name : Json) = some level := by
  cases level with
  | run => rfl
  | group => rfl
  | subgroup => rfl

theorem Key.canonical_toJson (key : Key) :
    key.toJson.canonical
      = .object [("name", .string key.name), ("section", .string key.inSection.name)] := by
  rw [toJson, Tree.canonical_object]
  simp only [orderEntries, insertEntries, List.foldl_cons, List.foldl_nil]
  rfl

theorem Key.HasProperSection.read?_canonical_toJson {key : Key} (h : key.HasProperSection) :
    read? key.toJson.canonical = some key := by
  have hread : read? key.toJson.canonical
      = some ⟨Section.ofName key.inSection.name, key.name⟩ := by
    rw [canonical_toJson]
    rfl
  rw [hread, h]

theorem Filter.IsNormal.read?_canonical_toJson {f : Filter} (h : f.IsNormal) :
    read? f.toJson.canonical = some f := by
  change some (ofJson f.toJson.canonical.canonical) = some f
  rw [f.toJson.isCanonical_canonical, h.isCanonical_toJson, h.ofJson_toJson]

theorem Filter.isNormal_of_read? {json : Json} (hstored : ∀ n ∈ json.numbers, n.IsStored)
    {f : Filter} (h : read? json = some f) : f.IsNormal := by
  cases h
  exact isNormal_ofJson json.isCanonical_canonical (Tree.forall_mem_numbers_canonical hstored)

/-- A filter that may be left out and is an empty group then. -/
theorem Filter.isNormal_of_orElse? {field : Option Json}
    (hstored : ∀ d ∈ field, ∀ n ∈ d.numbers, n.IsStored) {op : Junction} {f : Filter}
    (h : Document.orElse? read? (.group op []) field = some f) : f.IsNormal := by
  obtain rfl | ⟨d, hd, hread⟩ := Document.orElse?_cases h
  · exact .group op [] nofun
  · exact isNormal_of_read? (hstored d hd) hread

namespace Grouping

/-- Are the sections of both keys called what they are? -/
structure HasProperKeys (grouping : Grouping) : Prop where
  /-- The one of the groups. -/
  group : grouping.group.HasProperSection
  /-- The one of the subgroups, if there are any. -/
  subgroup : ∀ key ∈ grouping.subgroup, key.HasProperSection

theorem fields?_canonical_toJson (grouping : Grouping) :
    Document.fields? [("group", .required), ("subgroup", .optional)] grouping.toJson.canonical
      = some [some grouping.group.toJson.canonical,
          grouping.subgroup.map fun key ↦ key.toJson.canonical] := by
  obtain ⟨group, subgroup⟩ := grouping
  rw [toJson, Document.fields?_canonical_object]
  · cases subgroup with
    | none => rfl
    | some key => rfl
  · cases subgroup with
    | none => exact (by decide : ["group"].Nodup)
    | some key => exact (by decide : ["group", "subgroup"].Nodup)

theorem HasProperKeys.read?_canonical_toJson {grouping : Grouping} (h : grouping.HasProperKeys) :
    read? grouping.toJson.canonical = some grouping := by
  have hsubgroup : Document.orAbsent? Key.read?
      (grouping.subgroup.map fun key ↦ key.toJson.canonical) = some grouping.subgroup :=
    Document.orAbsent?_map (fun key hkey ↦ (h.subgroup key hkey).read?_canonical_toJson)
      fun _ ↦ rfl
  rw [read?, fields?_canonical_toJson]
  simp only [h.group.read?_canonical_toJson, hsubgroup, Option.bind_eq_bind, Option.bind_some]
  rfl

theorem hasProperKeys_of_read? {json : Json} {grouping : Grouping}
    (h : read? json = some grouping) : grouping.HasProperKeys := by
  unfold read? at h
  split at h
  · next group subgroup _ =>
    obtain ⟨key, hkey, h⟩ := Option.bind_eq_some_iff.mp h
    obtain ⟨second, hsecond, heq⟩ := Option.bind_eq_some_iff.mp h
    cases heq
    refine ⟨Key.hasProperSection_of_read? hkey, fun key hkey ↦ ?_⟩
    obtain ⟨d, -, hread⟩ := Document.forall_mem_of_orAbsent? hsecond key hkey
    exact Key.hasProperSection_of_read? hread
  · cases h

end Grouping

theorem Json.Number.lt_wordLimit_of_toCount? {number : Json.Number} {n : Nat}
    (h : number.toCount? = some n) : n < wordLimit := by
  cases number with
  | int i =>
    rw [toCount?] at h
    split at h
    · next hrange =>
      cases h
      exact (Int.toNat_lt hrange.1).mpr hrange.2
    · cases h
  | float x => cases h

theorem Document.count?_ofCount {n : Nat} (h : n < Json.Number.wordLimit) :
    count? (Json.ofCount n) = some n := by
  change (some (Json.Number.int n)).bind Json.Number.toCount? = some n
  rw [Option.bind_some, Json.Number.toCount?,
    if_pos ⟨Int.natCast_nonneg n, Int.ofNat_lt.mpr h⟩, Int.toNat_natCast]

namespace Query

theorem readPage?_canonical_pageToJson {size : Nat} (h : size < Json.Number.wordLimit) :
    readPage? (pageToJson size).canonical = some size := by
  have hfields : Document.fields? [("size", .required)] (pageToJson size).canonical
      = some [some (Json.ofCount size)] := by
    rw [pageToJson, Document.fields?_canonical_object]
    · rfl
    · exact List.nodup_singleton _
  rw [readPage?, hfields]
  exact Document.count?_ofCount h

theorem lt_wordLimit_of_readPage? {json : Json} {size : Nat} (h : readPage? json = some size) :
    size < Json.Number.wordLimit := by
  unfold readPage? at h
  split at h
  · obtain ⟨number, -, hcount⟩ := Option.bind_eq_some_iff.mp h
    exact Json.Number.lt_wordLimit_of_toCount? hcount
  · cases h

/-! ## Normal queries -/

/-- What reading gives. -/
structure IsNormal (query : Query) : Prop where
  /-- The filter of the runs to show is normal. -/
  filters : query.filters.IsNormal
  /-- So is the one of the runs to highlight. -/
  selections : query.selections.IsNormal
  /-- No key of the groups has a known section under the guise of an unknown one. -/
  grouping : ∀ grouping ∈ query.grouping, grouping.HasProperKeys
  /-- A page size is a count. -/
  page : ∀ size ∈ query.page, size < Json.Number.wordLimit

theorem fields?_canonical_toJson (query : Query) :
    Document.fields? fields query.toJson.canonical
      = some [some query.filters.toJson.canonical, some query.selections.toJson.canonical,
          some query.sort.toJson.canonical, query.grouping.map fun g ↦ g.toJson.canonical,
          some (.string query.level.name), query.page.map fun size ↦ (pageToJson size).canonical,
          some (.bool query.disabled), some (.bool query.reuseBase),
          some query.columns.toJson.canonical] := by
  rw [toJson, Document.fields?_canonical_object]
  -- the two members that may be missing
  · cases query.grouping with
    | none =>
      cases query.page with
      | none => rfl
      | some size => rfl
    | some grouping =>
      cases query.page with
      | none => rfl
      | some size => rfl
  · have hnames : (fields.map Prod.fst).Nodup := by decide
    have hpage := (Document.map_fst_toList_sublist "page" pageToJson query.page).append_right
      ["disabled", "reuseBase", "columns"]
    have hgrouping := (Document.map_fst_toList_sublist "grouping" Grouping.toJson
      query.grouping).append (hpage.append_left ["level"])
    refine hnames.sublist ?_
    simp only [List.map_append, List.append_assoc]
    exact hgrouping.append_left ["filters", "selections", "sort"]

/-- **A normal query is read back from what is written of it.** -/
theorem IsNormal.read?_canonical_toJson {query : Query} (h : query.IsNormal) :
    read? query.toJson.canonical = some query := by
  have hgrouping : Document.orAbsent? Grouping.read?
      (query.grouping.map fun g ↦ g.toJson.canonical) = some query.grouping :=
    Document.orAbsent?_map (fun g hg ↦ (h.grouping g hg).read?_canonical_toJson) fun _ ↦ rfl
  have hpage : Document.orAbsent? readPage?
      (query.page.map fun size ↦ (pageToJson size).canonical) = some query.page :=
    Document.orAbsent?_map (fun size hsize ↦ readPage?_canonical_pageToJson (h.page size hsize))
      fun _ ↦ rfl
  rw [read?, fields?_canonical_toJson]
  simp only [Document.orElse?_some, h.filters.read?_canonical_toJson,
    h.selections.read?_canonical_toJson, SortOrder.read?_canonical_toJson, hgrouping,
    Level.read?_name, hpage, ColumnChoice.read?_canonical_toJson, Option.bind_eq_bind,
    Option.bind_some]
  rfl

/-- **What is read from data is normal.** -/
theorem isNormal_of_read? {json : Json} (hstored : ∀ n ∈ json.numbers, n.IsStored) {query : Query}
    (h : read? json = some query) : query.IsNormal := by
  unfold read? at h
  split at h
  · next hfields =>
    -- of the filters the numbers matter, since data that is no filter is kept as it is
    have hnumbers := Document.forall_mem_numbers_of_fields? hstored hfields
    rw [List.forall_mem_cons, List.forall_mem_cons] at hnumbers
    obtain ⟨hfilters, hselections, -⟩ := hnumbers
    simp only [Option.bind_eq_bind, Option.bind_eq_some_iff, Option.pure_def,
      Option.some.injEq] at h
    obtain ⟨f, hf, s, hs, _, -, g, hg, _, -, p, hp, _, -, _, -, _, -, rfl⟩ := h
    refine ⟨Filter.isNormal_of_orElse? hfilters hf, Filter.isNormal_of_orElse? hselections hs,
      fun grouping hgrouping ↦ ?_, fun size hsize ↦ ?_⟩
    · obtain ⟨d, -, hread⟩ := Document.forall_mem_of_orAbsent? hg grouping hgrouping
      exact Grouping.hasProperKeys_of_read? hread
    · obtain ⟨d, -, hread⟩ := Document.forall_mem_of_orAbsent? hp size hsize
      exact lt_wordLimit_of_readPage? hread
  · cases h

/-- **A query that was read from data is read back from what is written of it**, however it was
spelled and in whatever order its members were, and comes back the same in every field. -/
theorem read?_canonical_toJson_of_read? {json : Json} (hstored : ∀ n ∈ json.numbers, n.IsStored)
    {query : Query} (h : read? json = some query) :
    read? query.toJson.canonical = some query :=
  (isNormal_of_read? hstored h).read?_canonical_toJson

/-- Data of a query in the order of its fields, the last ones left out, with a group under its older
name, a key as a text, a key of no known section and with an empty name, data that is no filter, and
a sort order and a grouping by position. -/
def positionalData : Json := .array [
  .object [
    ("children", .array [
      .object [("key", .string "config:lr"), ("op", .string ">="), ("value", .number (.int 1))],
      .object [("key", .object [("name", .string ""), ("section", .string "x")]),
        ("op", .string "=")],
      .object [("op", .string "XOR")]]),
    ("op", .string "OR")],
  .null,
  .array [.string "summary:loss"],
  .array [.string "config:seed"],
  .string "group",
  .object [("size", .number (.int 10))]]

/-- The query of that data. -/
def positional : Query where
  filters := Filter.any [
    Filter.compare ⟨.config, "lr"⟩ .ge (.number (Double.ofInt 1)),
    Filter.compare ⟨.unknown "x", ""⟩ .eq .null,
    Filter.invalid (.object [("op", .string "XOR")])]
  selections := Filter.invalid .null
  sort := ⟨some "summary:loss", false⟩
  grouping := some ⟨⟨.config, "seed"⟩, none⟩
  level := .group
  page := some 10
  disabled := false
  reuseBase := false
  columns := ColumnChoice.default

theorem read?_canonical_toJson_of_positional :
    (∀ n ∈ positionalData.numbers, n.IsStored) ∧ read? positionalData = some positional ∧
      read? positional.toJson.canonical = some positional := by
  have hstored : ∀ n ∈ positionalData.numbers, n.IsStored := by decide
  have hread : read? positionalData = some positional := by rfl
  exact ⟨hstored, hread, read?_canonical_toJson_of_read? hstored hread⟩

end Query

end RunQuery

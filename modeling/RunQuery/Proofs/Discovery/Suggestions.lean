import RunQuery.Discovery
import RunQuery.Proofs.ConditionText
import RunQuery.Proofs.Filter.Link
import RunQuery.Proofs.Selection.Wire
import RunQuery.Run.Payload
import RunQuery.Sorting

/-!
# What the offered keys reach

The keys that a set of runs offers are those of its fields, and each is shown by its text. Whoever
picks one hands in that text: as the name of a sort order, as the key of a condition, or as the name
of a range. It reaches the field it was made from exactly if the field has a name.

Names come from the data of the runs, so that a tag may look like a key of another section, or have
colons in it: that does no harm, because the section that stands in front is known and is split off
first. But a field without a name is offered as well, by a text that names no key. Nothing that is
handed in under such a text has an effect: runs stay unsorted, a condition is passed by no run, and
ranges are not read at all.
-/

namespace RunQuery

/-- Do all fields of a run have names, metrics apart that are not offered? -/
structure Run.NamesFields (run : Run) : Prop where
  /-- No tag is empty. -/
  tags : "" ∉ run.tags
  /-- No path is empty. -/
  config : "" ∉ run.config.keys
  /-- No metric with an empty name is a scalar. -/
  summary : ∀ v, run.summary.get? "" = some v → v.isScalar = false

namespace Discovery

/-! ## The keys that are offered -/

/-- The keys that a set of runs offers, section after section. -/
def offeredKeys (runs : List Run) : List Key := (suggestions runs).flatMap KeySuggestion.keys

variable {runs : List Run} {key : Key}

theorem map_text_axisOptions (runs : List Run) :
    (axisOptions (suggestions runs)).map AxisOption.text = (offeredKeys runs).map Key.text := by
  simp [axisOptions, offeredKeys, List.map_flatMap, Function.comp_def]

@[simp] theorem mem_distinctNames {name : String} {names : List String} :
    name ∈ distinctNames names ↔ name ∈ names := by
  simp [distinctNames, Dict.mem_keys_ofList_iff]

theorem nodup_distinctNames (names : List String) : (distinctNames names).Nodup :=
  (Dict.ofList _).keysIncrease.nodup

theorem nodup_sectionKeys (area : Section) (runs : List Run) : (sectionKeys area runs).Nodup := by
  have hname (names : List String) (hnames : names.Nodup) : (names.map (Key.mk area)).Nodup :=
    hnames.map fun _ _ heq ↦ (Key.mk.inj heq).2
  rw [sectionKeys]
  split_ifs with hrun
  · rw [← hrun]
    exact hname _ (by decide)
  · exact hname _ (nodup_distinctNames _)

theorem mem_sectionKeys_iff {area : Section} :
    key ∈ sectionKeys area runs ↔ key.inSection = area ∧
      ((area = .run ∧ key.name ∈ Run.builtInFields) ∨
        ∃ run ∈ runs, key.name ∈ namesIn area run) := by
  have hmap (names : List String) :
      key ∈ names.map (Key.mk area) ↔ key.inSection = area ∧ key.name ∈ names := by
    rw [List.mem_map]
    constructor
    · rintro ⟨name, hname, rfl⟩
      exact ⟨rfl, hname⟩
    · rintro ⟨rfl, hname⟩
      exact ⟨key.name, hname, rfl⟩
  rw [sectionKeys]
  split_ifs with hrun
  · subst hrun
    simp [hmap, namesIn]
  · simp [hmap, hrun]

theorem mem_offeredKeys_iff :
    key ∈ offeredKeys runs ↔
      (key.inSection = .run ∧ key.name ∈ Run.builtInFields) ∨
        ∃ run ∈ runs, key.name ∈ namesIn key.inSection run := by
  have hsection : key ∈ offeredKeys runs ↔ key.inSection ∈ sections ∧
      key ∈ sectionKeys key.inSection runs := by
    simp only [offeredKeys, suggestions, List.flatMap_map, List.mem_flatMap]
    constructor
    · rintro ⟨area, harea, hkey⟩
      obtain rfl := (mem_sectionKeys_iff.mp hkey).1
      exact ⟨harea, hkey⟩
    · rintro ⟨harea, hkey⟩
      exact ⟨_, harea, hkey⟩
  rw [hsection, mem_sectionKeys_iff]
  -- all known sections are offered, and an unknown one names no field of a run
  cases key.inSection with
  | unknown name => simp [sections, namesIn]
  | _ => simp [sections]

theorem isKnown_of_mem_offeredKeys (h : key ∈ offeredKeys runs) :
    key.inSection.isKnown = true := by
  rcases mem_offeredKeys_iff.mp h with ⟨hrun, -⟩ | ⟨run, -, hname⟩
  · rw [hrun]
    rfl
  · cases hsection : key.inSection with
    | unknown name =>
      rw [hsection] at hname
      cases hname
    | _ => rfl

theorem nodup_offeredKeys (runs : List Run) : (offeredKeys runs).Nodup := by
  rw [offeredKeys, suggestions, List.flatMap_map, List.nodup_flatMap]
  refine ⟨fun area _ ↦ nodup_sectionKeys area runs, ?_⟩
  have hsections : sections.Pairwise (· ≠ ·) := by decide
  refine hsections.imp fun hne key hkey hkey' ↦ hne ?_
  rw [← (mem_sectionKeys_iff.mp hkey).1, ← (mem_sectionKeys_iff.mp hkey').1]

/-! ## What a text reaches -/

/-- Does the text of a key reach its field, wherever it is handed in? -/
structure IsReached (key : Key) : Prop where
  /-- It names the key. -/
  named : Key.parse? key.text = some key
  /-- An order of that name sorts by the field. -/
  sorted : ∀ ascending, SortOrder.subject? ⟨some key.text, ascending⟩ = some (.field key)
  /-- A condition in data that has the text as its key is on the field. -/
  filtered : ∀ (op : Operator) (literal : Json),
    Filter.ofJson (.object
      [("key", .string key.text), ("op", .string op.sign), ("value", literal)])
      = .leaf ⟨key, op, Value.ofJson literal⟩
  /-- So is one that is typed, if the text is kept apart from the operator, and else none is. -/
  typed : ∀ (op : Operator) (value : String), op.Leads (op.sign ++ value).toList →
    (Condition.parse (key.text ++ op.sign ++ value)
      = .ok ⟨key, op, Condition.literalOf op (Text.trim value)⟩ ↔
        Condition.StandsBefore op key.text)
  /-- A range of that name bounds the field. -/
  bounded : ∀ range : Json, AxisRanges.read? (Tree.object [(key.text, range)] : Json)
    = (Bounds.read? range).map fun b ↦ Dict.ofList [(key, b)]

/-- Does a text reach nothing, wherever it is handed in? -/
structure IsIgnored (text : String) : Prop where
  /-- It names no key. -/
  unnamed : Key.parse? text = none
  /-- An order of that name leaves runs as they are. -/
  unsorted : ∀ ascending selected runs,
    SortOrder.sort ⟨some text, ascending⟩ selected runs = runs
  /-- A condition in data that has the text as its key is no filter. -/
  unfiltered : ∀ (op : Operator) (literal : Json),
    let data : Json := .object [("key", .string text), ("op", .string op.sign), ("value", literal)]
    Filter.ofJson data = .invalid data
  /-- What is typed with it before an operator is no condition. -/
  untyped : ∀ (op : Operator) (value : String), op.Leads (op.sign ++ value).toList →
    Condition.parse (text ++ op.sign ++ value) = .error (.invalidKey (text ++ op.sign ++ value))
  /-- Ranges are not read if one of them has that name. -/
  unbounded : ∀ members : List (String × Json), text ∈ members.map Prod.fst →
    AxisRanges.read? (Tree.object members : Json) = none

theorem text_ne_selectedName (key : Key) : key.text ≠ SortOrder.selectedName := by
  intro h
  have hcolon : ':' ∈ key.text.toList := by
    simp [Key.text]
  rw [h] at hcolon
  exact absurd hcolon (by decide)

/-- **The text of a key reaches its field** exactly if the key is addressable. -/
theorem isReached_iff : IsReached key ↔ key.IsAddressable := by
  constructor
  · exact fun h ↦ Key.parse?_text_eq_some_iff.mp h.named
  · intro h
    have hparse : Key.parse? key.text = some key := Key.parse?_text_eq_some_iff.mpr h
    refine ⟨hparse, ?_, ?_, ?_, ?_⟩
    · intro ascending
      rw [SortOrder.subject?, Option.bind_some, SortOrder.Subject.ofName?,
        if_neg (text_ne_selectedName key), hparse, Option.map_some]
    · intro op literal
      rw [Filter.ofJson_leaf_text, hparse]
    · intro op value hop
      constructor
      · exact fun hparsed ↦ Condition.standsBefore_of_parse_append h hop hparsed rfl
      · exact fun hbefore ↦ Condition.parse_append h hbefore hop
    · exact AxisRanges.read?_singleton h

theorem isIgnored_of_name_eq_empty (hknown : key.inSection.isKnown = true)
    (hname : key.name = "") : IsIgnored key.text := by
  have hparse : Key.parse? key.text = none := by
    rw [Key.parse?_text_of_isKnown hknown, if_pos hname]
  have hplain : Condition.IsPlain key.text := by
    rw [Key.text, hname]
    cases hsection : key.inSection with
    | unknown name =>
      rw [hsection] at hknown
      cases hknown
    | _ => decide
  refine ⟨hparse, ?_, ?_, ?_, ?_⟩
  · intro ascending selected runs
    have hsubject : SortOrder.subject? ⟨some key.text, ascending⟩ = none := by
      rw [SortOrder.subject?, Option.bind_some, SortOrder.Subject.ofName?,
        if_neg (text_ne_selectedName key), hparse, Option.map_none]
    rw [SortOrder.sort, hsubject]
  · intro op literal data
    rw [Filter.ofJson_leaf_text, hparse]
  · intro op value hop
    rw [Condition.parse_append_of_standsBefore (hplain.standsBefore op) hop, hparse]
  · intro members hmem
    exact AxisRanges.read?_eq_none hmem hparse

/-! ## What the offered keys reach -/

theorem namesFields_iff {run : Run} : run.NamesFields ↔ ∀ area, "" ∉ namesIn area run := by
  have hsummary : "" ∈ namesIn .summary run ↔
      ∃ v, run.summary.get? "" = some v ∧ v.isScalar = true := by
    simp [namesIn, Dict.mem_toList_iff]
  constructor
  · rintro ⟨htags, hconfig, hscalar⟩ area
    cases area with
    | run => exact List.not_mem_nil
    | config => exact hconfig
    | summary =>
      rw [hsummary]
      rintro ⟨v, hget, hv⟩
      rw [hscalar v hget] at hv
      cases hv
    | tags => exact htags
    | unknown name => exact List.not_mem_nil
  · intro h
    refine ⟨h .tags, h .config, fun v hget ↦ ?_⟩
    rw [← Bool.not_eq_true]
    exact fun hv ↦ h .summary (hsummary.mpr ⟨v, hget, hv⟩)

theorem isReached_iff_of_mem_offeredKeys (h : key ∈ offeredKeys runs) :
    IsReached key ↔ key.name ≠ "" := by
  rw [isReached_iff]
  constructor
  · exact Key.IsAddressable.named
  · exact fun hname ↦ ⟨isKnown_of_mem_offeredKeys h, hname⟩

theorem forall_isReached_iff :
    (∀ key ∈ offeredKeys runs, IsReached key) ↔ ∀ run ∈ runs, run.NamesFields := by
  constructor
  · intro h run hrun
    rw [namesFields_iff]
    intro area hname
    have hmem : ⟨area, ""⟩ ∈ offeredKeys runs := mem_offeredKeys_iff.mpr (.inr ⟨run, hrun, hname⟩)
    exact (isReached_iff.mp (h _ hmem)).named rfl
  · intro h key hkey
    rw [isReached_iff_of_mem_offeredKeys hkey]
    intro hname
    rcases mem_offeredKeys_iff.mp hkey with ⟨-, hbuiltIn⟩ | ⟨run, hrun, hnamed⟩
    · rw [hname] at hbuiltIn
      exact absurd hbuiltIn (by decide)
    · rw [hname] at hnamed
      exact namesFields_iff.mp (h run hrun) _ hnamed

/-- **The keys that runs offer reach their fields**, each by the text that is shown for it, exactly
if all fields have names. The texts are those of the keys, which are the keys of the fields that the
runs have, and no two of them are the same. Under the text of a key without a name nothing is
reached. -/
theorem offeredKeys_and_axisOptions (runs : List Run) :
    (∀ key, key ∈ offeredKeys runs ↔
      (key.inSection = .run ∧ key.name ∈ Run.builtInFields) ∨
        ∃ run ∈ runs, key.name ∈ namesIn key.inSection run) ∧
    (axisOptions (suggestions runs)).map AxisOption.text = (offeredKeys runs).map Key.text ∧
    ((axisOptions (suggestions runs)).map AxisOption.text).Nodup ∧
    (∀ key ∈ offeredKeys runs,
      (IsReached key ↔ key.name ≠ "") ∧ (key.name = "" → IsIgnored key.text)) ∧
    ((∀ key ∈ offeredKeys runs, IsReached key) ↔ ∀ run ∈ runs, run.NamesFields) := by
  refine ⟨fun key ↦ mem_offeredKeys_iff, map_text_axisOptions runs, ?_, ?_, forall_isReached_iff⟩
  · rw [map_text_axisOptions]
    exact Key.nodup_map_text (nodup_offeredKeys runs) fun key ↦ isKnown_of_mem_offeredKeys
  · intro key hkey
    exact ⟨isReached_iff_of_mem_offeredKeys hkey,
      isIgnored_of_name_eq_empty (isKnown_of_mem_offeredKeys hkey)⟩

/-- A payload with a tag that looks like a key of the configuration, one that is a colon, and an
empty one. -/
def nestedNamesPayload : Json :=
  .object [("name", .string "r"), ("tags", .array [.string "config:lr", .string ":", .string ""])]

/-- The first tag is reached by its text, in a typed condition too, and the empty one is not. -/
theorem isReached_of_nestedNames :
    let runs := [nestedNamesPayload].filterMap Run.ofPayload?
    ⟨.tags, "config:lr"⟩ ∈ offeredKeys runs ∧ IsReached ⟨.tags, "config:lr"⟩ ∧
      Condition.parse "tags:config:lr!=false"
        = .ok ⟨⟨.tags, "config:lr"⟩, .ne, .bool false⟩ ∧
      ⟨.tags, ""⟩ ∈ offeredKeys runs ∧ IsIgnored "tags:" := by
  intro runs
  have hnested : ⟨.tags, "config:lr"⟩ ∈ offeredKeys runs := by decide
  have hempty : ⟨.tags, ""⟩ ∈ offeredKeys runs := by decide
  obtain ⟨-, -, -, hreach, -⟩ := offeredKeys_and_axisOptions runs
  have hreached := (hreach _ hnested).1.mpr (by decide)
  have hplain : Condition.IsPlain (Key.text ⟨.tags, "config:lr"⟩) := by decide
  have htyped := (hreached.typed .ne "false" (by decide)).mpr (hplain.standsBefore .ne)
  exact ⟨hnested, hreached, htyped, hempty, (hreach _ hempty).2 rfl⟩

/-- Two payloads, the second one with an empty tag. -/
def unnamedTagPayloads : List Json :=
  [.object [("name", .string "a"), ("tags", .array [])],
    .object [("name", .string "b"), ("tags", .array [.string ""])]]

/-- The empty tag is offered, but its text names no key. So an order of that name leaves the runs as
they are, though a run with the tag comes before one without it. -/
theorem sort_of_unnamedTag :
    let runs := unnamedTagPayloads.filterMap Run.ofPayload?
    ⟨.tags, ""⟩ ∈ offeredKeys runs ∧ ⟨"tags:"⟩ ∈ axisOptions (suggestions runs) ∧
      Key.text ⟨.tags, ""⟩ = "tags:" ∧ Key.parse? "tags:" = none ∧
      runs.map (·.value? ⟨.tags, ""⟩) = [some (.bool false), some (.bool true)] ∧
      SortOrder.precedes false (some (.bool false)) (some (.bool true)) = false ∧
      (SortOrder.sort ⟨some "tags:", false⟩ [] runs).map (·.id) = ["a", "b"] := by
  intro runs
  have hmem : ⟨.tags, ""⟩ ∈ offeredKeys runs := by decide
  have haxis : ⟨"tags:"⟩ ∈ axisOptions (suggestions runs) := by decide
  exact ⟨hmem, haxis, rfl, rfl, rfl, rfl, rfl⟩

end Discovery

end RunQuery

import RunQuery.Proofs.Document
import RunQuery.Proofs.Run.Payload
import RunQuery.Proofs.Timestamp
import RunQuery.Run.Snapshot

/-!
# Snapshots of runs read back

A run that a payload delivers is read back from its snapshot, whatever is missing in it, as long as
its timestamps are whole milliseconds of years with four digits and its metrics contain none of the
words for numbers that are not finite.

That holds except for one thing. The configuration is read by the same reader as the metrics, and
may hold the same numbers, but only in the metrics is a word read as a number again. So a snapshot
loses exactly the numbers of the configuration that are not finite: they come back as texts.
-/

namespace RunQuery

/-! ## The parts of a snapshot -/

@[simp] theorem User.read?_toJson (user : User) : User.read? user.toJson = some user := by
  rfl

@[simp] theorem RunState.read?_name (state : RunState) :
    RunState.read? (Tree.string state.name : Json) = some state := by
  cases state with
  | running => rfl
  | finished => rfl
  | killed => rfl
  | crashed => rfl
  | failed => rfl
  | unknown => rfl

namespace Run

@[simp] theorem readInstant?_string (text : String) :
    readInstant? (Tree.string text : Json) = (Timestamp.standard? text.toList).map some := by
  simp only [readInstant?, Document.orNull?, Document.isNull_string, Bool.false_eq_true, if_false,
    Document.text?_string, Option.bind_some]

theorem readInstant?_text {i : Instant} (h : i.IsExact) :
    readInstant? (Tree.string i.text : Json) = some (some i) := by
  simp [Instant.standard?_text_eq_some_iff.mpr h]

theorem readInstant?_ofOption {instant : Option Instant} (h : ∀ i ∈ instant, i.IsExact) :
    readInstant? (Json.ofOption (fun i ↦ .string i.text) instant) = some instant := by
  cases instant with
  | none => rfl
  | some i =>
    simp only [Json.ofOption, Option.map_some, Option.getD_some, readInstant?_text (h i rfl)]

theorem orElse?_readInstant?_map {instant : Option Instant} (h : ∀ i ∈ instant, i.IsExact) :
    Document.orElse? readInstant? none (instant.map fun i ↦ (Tree.string i.text : Json))
      = some instant := by
  cases instant with
  | none => rfl
  | some i => simp only [Option.map_some, Document.orElse?_some, readInstant?_text (h i rfl)]

theorem readValues?_valuesToJson {values : Dict String Value} (h : values.HasCanonicalValues) :
    readValues? (valuesToJson values) = some (values.mapValues fun v ↦ Value.ofJson v.toJson) := by
  have hmembers : Document.members? (valuesToJson values)
      = some (values.toList.map fun e ↦ (e.1, e.2.toJson)) := rfl
  rw [readValues?, hmembers]
  dsimp only [Option.bind_eq_bind, Option.bind_some]
  rw [List.mapM_map, Document.mapM_eq_some (f := fun e ↦ (e.1, Value.ofJson e.2.toJson))]
  · have hordered := Dict.ofList_toList (values.mapValues fun v : Value ↦ Value.ofJson v.toJson)
    exact congrArg some hordered
  · intro e he
    have hcanonical : (Value.ofJson e.2.toJson).IsCanonical :=
      Value.isCanonical_ofJson (Value.isCanonical_toJson (h e he))
    exact congrArg (fun v ↦ some (e.1, v)) hcanonical

theorem mapValues_restoreNonFinite_eq_self_iff {values : Dict String Value} :
    (values.mapValues fun v ↦ Value.ofJson v.toJson).mapValues Value.restoreNonFinite = values ↔
      ∀ e ∈ values.toList, ∀ s ∈ e.2.strings, ∀ n, s ≠ NonFinite.word n := by
  have hcompose : (values.mapValues fun v ↦ Value.ofJson v.toJson).mapValues Value.restoreNonFinite
      = values.mapValues fun v ↦ (Value.ofJson v.toJson).restoreNonFinite :=
    Dict.ext (List.map_map ..)
  rw [hcompose, Dict.mapValues_eq_self_iff]
  exact forall₂_congr fun e _ ↦ Value.restoreNonFinite_ofJson_toJson_eq_self_iff

/-! ## The whole snapshot -/

variable {run : Run}

theorem nodup_toMembers (run : Run) : (run.toMembers.map Prod.fst).Nodup := by
  rw [toMembers]
  cases run.heartbeatAt with
  | none =>
    change ["id", "name", "state", "description", "user", "host", "createdAt", "tags", "config",
      "summary"].Nodup
    decide
  | some i =>
    change ["id", "name", "state", "description", "user", "host", "createdAt", "heartbeatAt",
      "tags", "config", "summary"].Nodup
    decide

theorem isCanonical_valuesToJson {values : Dict String Value} (h : values.HasCanonicalValues) :
    (valuesToJson values).IsCanonical := by
  rw [valuesToJson, Tree.isCanonical_object_iff]
  refine ⟨Dict.keysIncrease_mapValues _ values.keysIncrease, List.forall_mem_map.mpr ?_⟩
  exact fun e he ↦ Value.isCanonical_toJson (h e he)

theorem isCanonical_of_mem_toMembers (hconfig : run.config.HasCanonicalValues)
    (hsummary : run.summary.HasCanonicalValues) : ∀ m ∈ run.toMembers, m.2.IsCanonical := by
  have huser : run.user.toJson.IsCanonical := by
    rw [User.toJson, Tree.isCanonical_object_iff]
    refine ⟨keysIncrease_of_map_fst (rfl : _ = ["name", "photoUrl"]) (by decide), ?_⟩
    simp only [List.forall_mem_cons]
    exact ⟨rfl, rfl, nofun⟩
  have hcreated : (Json.ofOption (fun i ↦ .string i.text) run.createdAt).IsCanonical := by
    cases run.createdAt with
    | none => rfl
    | some i => rfl
  have hheartbeat : ∀ m ∈ (run.heartbeatAt.map fun i ↦
      ("heartbeatAt", (Tree.string i.text : Json))).toList, m.2.IsCanonical := by
    cases run.heartbeatAt with
    | none => exact nofun
    | some i => exact List.forall_mem_singleton.mpr rfl
  have htags : (Json.ofTexts run.tags).IsCanonical := Document.canonical_ofTexts run.tags
  rw [toMembers]
  simp only [List.forall_mem_append, List.forall_mem_cons]
  exact ⟨⟨⟨rfl, rfl, rfl, rfl, huser, rfl, hcreated, nofun⟩, hheartbeat⟩, htags,
    isCanonical_valuesToJson hconfig, isCanonical_valuesToJson hsummary, nofun⟩

theorem fields?_toJson (run : Run) :
    Document.fields? snapshotFields run.toJson
      = some [some (.string run.id), some (.string run.name), some (.string run.state.name),
          some (.string run.description), some run.user.toJson, some (.string run.host),
          some (Json.ofOption (fun i ↦ .string i.text) run.createdAt),
          run.heartbeatAt.map fun i ↦ .string i.text, some (Json.ofTexts run.tags),
          some (valuesToJson run.config), some (valuesToJson run.summary)] := by
  rw [toJson, Document.fields?_object (nodup_toMembers run), toMembers]
  -- the one member that may be missing
  cases run.heartbeatAt with
  | none => rfl
  | some i => rfl

theorem read?_toJson (hconfig : run.config.HasCanonicalValues)
    (hsummary : run.summary.HasCanonicalValues) (hcreated : ∀ i ∈ run.createdAt, i.IsExact)
    (hheartbeat : ∀ i ∈ run.heartbeatAt, i.IsExact) :
    read? run.toJson = some { run with
      config := run.config.mapValues fun v ↦ Value.ofJson v.toJson
      summary := (run.summary.mapValues fun v ↦ Value.ofJson v.toJson).mapValues
        Value.restoreNonFinite } := by
  rw [read?, fields?_toJson]
  simp only [Document.text?_string, RunState.read?_name, User.read?_toJson, Document.orElse?_some,
    readInstant?_ofOption hcreated, orElse?_readInstant?_map hheartbeat,
    Document.list?_text?_ofTexts, readValues?_valuesToJson hconfig,
    readValues?_valuesToJson hsummary, Option.bind_eq_bind, Option.bind_some]
  rfl

theorem read?_canonical_toJson (hconfig : run.config.HasCanonicalValues)
    (hsummary : run.summary.HasCanonicalValues) :
    read? run.toJson.canonical = read? run.toJson := by
  rw [read?, read?, toJson, Document.fields?_canonical (nodup_toMembers run)
    (isCanonical_of_mem_toMembers hconfig hsummary)]

/-- Words change nothing in a configuration exactly if its numbers are finite. -/
theorem spelled_eq_self_iff :
    { run with config := run.config.mapValues fun v ↦ Value.ofJson v.toJson } = run ↔
      ∀ e ∈ run.config.toList, ∀ x ∈ e.2.numbers, x.isFinite = true := by
  have hconfig : { run with config := run.config.mapValues fun v ↦ Value.ofJson v.toJson } = run ↔
      (run.config.mapValues fun v ↦ Value.ofJson v.toJson) = run.config := by
    constructor
    · exact fun h ↦ congrArg Run.config h
    · intro h
      rw [h]
  rw [hconfig, Dict.mapValues_eq_self_iff]
  exact forall₂_congr fun e _ ↦ Value.ofJson_toJson_eq_self_iff

/-- What a snapshot gives back: the run, its configuration with words in place of the numbers that
are not finite. -/
theorem read?_snapshot (hconfig : run.config.HasCanonicalValues)
    (hsummary : run.summary.HasCanonicalValues) (hcreated : ∀ i ∈ run.createdAt, i.IsExact)
    (hheartbeat : ∀ i ∈ run.heartbeatAt, i.IsExact)
    (hwords : ∀ e ∈ run.summary.toList, ∀ s ∈ e.2.strings, ∀ n, s ≠ NonFinite.word n) :
    read? run.toJson.canonical
      = some { run with config := run.config.mapValues fun v ↦ Value.ofJson v.toJson } := by
  rw [read?_canonical_toJson hconfig hsummary, read?_toJson hconfig hsummary hcreated hheartbeat,
    mapValues_restoreNonFinite_eq_self_iff.mpr hwords]

/-- **A run that a payload delivers is read back from its snapshot, but for numbers of the
configuration that are not finite**: these come back as texts. Its timestamps have to be whole
milliseconds of years with four digits, and none of the texts in its metrics may be a word for a
number. -/
theorem read?_snapshot_of_ofPayload? {payload : Json} {run : Run}
    (h : ofPayload? payload.canonical = some run) (hcreated : ∀ i ∈ run.createdAt, i.IsExact)
    (hheartbeat : ∀ i ∈ run.heartbeatAt, i.IsExact)
    (hwords : ∀ e ∈ run.summary.toList, ∀ s ∈ e.2.strings, ∀ n, s ≠ NonFinite.word n) :
    read? run.toJson.canonical
        = some { run with config := run.config.mapValues fun v ↦ Value.ofJson v.toJson } ∧
      (read? run.toJson.canonical = some run ↔
        ∀ e ∈ run.config.toList, ∀ x ∈ e.2.numbers, x.isFinite = true) := by
  obtain ⟨hconfig, hsummary⟩ := hasCanonicalValues_of_ofPayload? h
  have hread := read?_snapshot hconfig hsummary hcreated hheartbeat hwords
  refine ⟨hread, ?_⟩
  rw [hread, Option.some.injEq, spelled_eq_self_iff]

/-- A payload with timestamps, one of them in a leap second, with nested values, and with words and
numbers that are not finite. -/
def assortedPayload : Json := .object [
  ("name", .string "a"), ("state", .string "crashed"), ("tags", .array [.string "t", .string "s"]),
  ("user", .object [("username", .string "u")]),
  ("createdAt", .string "2016-12-31T23:59:60.250+00:00"),
  ("heartbeatAt", .string "2017-01-01 03:04:05.5"),
  ("config", .string
    "\x7b\"a\":\x7b\"value\":\x7b\"b\":[1,\"NaN\"],\"c\":\x7b\x7d\x7d\x7d,\"d\":1\x7d"),
  ("summaryMetrics", .string "\x7b\"loss\":NaN,\"best\":[-Infinity,\"x\",1e300]\x7d")]

/-- All of that payload comes back, its text `NaN` in the configuration as a text and its number in
the metrics as a number. -/
theorem read?_snapshot_of_assortedPayload :
    ∃ run, ofPayload? assortedPayload.canonical = some run ∧
      read? run.toJson.canonical = some run := by
  have hcreated : (ofPayload? assortedPayload.canonical).map Run.createdAt
      = some (some ⟨17166, 86399, 1250000000, by decide, by decide, by decide⟩) := by
    decide +kernel
  have hheartbeat : (ofPayload? assortedPayload.canonical).map Run.heartbeatAt
      = some (some ⟨17167, 11045, 500000000, by decide, by decide, by decide⟩) := by
    decide +kernel
  have hwords : (ofPayload? assortedPayload.canonical).all (fun run ↦ run.summary.toList.all fun e ↦
      e.2.strings.all fun s ↦ (NonFinite.ofWord? s).isNone) = true := by
    decide +kernel
  have hfinite : (ofPayload? assortedPayload.canonical).all (fun run ↦ run.config.toList.all fun e ↦
      e.2.numbers.all Double.isFinite) = true := by
    decide +kernel
  obtain ⟨run, hrun, hcreated⟩ := Option.map_eq_some_iff.mp hcreated
  simp only [hrun, Option.map_some, Option.some.injEq, Option.all_some, List.all_eq_true,
    Option.isNone_iff_eq_none, NonFinite.ofWord?_eq_none_iff] at hheartbeat hwords hfinite
  refine ⟨run, hrun, (read?_snapshot_of_ofPayload? hrun ?_ ?_ hwords).2.mpr hfinite⟩
  · rw [hcreated]
    rintro i ⟨⟩
    exact ⟨by decide, by decide⟩
  · rw [hheartbeat]
    rintro i ⟨⟩
    exact ⟨by decide, by decide⟩

/-- A payload whose configuration has a number that is not finite. -/
def nanConfigPayload : Json := .object [
  ("name", .string "r"), ("config", .string "\x7b\"lr\":\x7b\"value\":NaN\x7d\x7d")]

/-- A `NaN` in the configuration comes back as a text. -/
theorem read?_snapshot_of_nanConfigPayload :
    ∃ run, ofPayload? nanConfigPayload.canonical = some run ∧ run.createdAt = none ∧
      run.heartbeatAt = none ∧ run.summary.toList = [] ∧
      read? run.toJson.canonical ≠ some run := by
  have hempty : (ofPayload? nanConfigPayload.canonical).all (fun run ↦
      run.createdAt.isNone && run.heartbeatAt.isNone && run.summary.toList.isEmpty) = true := by
    decide +kernel
  have hlr : ((ofPayload? nanConfigPayload.canonical).bind fun run ↦
      (run.config.get? "lr").bind Tree.number?) = some .nan := by
    decide +kernel
  obtain ⟨run, hrun, hlr⟩ := Option.bind_eq_some_iff.mp hlr
  obtain ⟨value, hvalue, hnan⟩ := Option.bind_eq_some_iff.mp hlr
  simp only [hrun, Option.all_some, Bool.and_eq_true, Option.isNone_iff_eq_none,
    List.isEmpty_iff] at hempty
  obtain ⟨⟨hcreated, hheartbeat⟩, hsummary⟩ := hempty
  refine ⟨run, hrun, hcreated, hheartbeat, hsummary, fun hback ↦ ?_⟩
  obtain ⟨hconfig, hcanonical⟩ := hasCanonicalValues_of_ofPayload? hrun
  rw [read?_snapshot hconfig hcanonical (by rw [hcreated]; exact nofun)
    (by rw [hheartbeat]; exact nofun) (by rw [hsummary]; exact nofun), Option.some.injEq,
    spelled_eq_self_iff] at hback
  have hmem : Double.nan ∈ value.numbers := by
    cases value with
    | number x =>
      obtain rfl := Option.some.inj hnan
      exact List.mem_singleton.mpr rfl
    | _ => cases hnan
  exact Bool.false_ne_true (hback _ (Dict.mem_toList_iff.mpr hvalue) _ hmem)

end Run

end RunQuery

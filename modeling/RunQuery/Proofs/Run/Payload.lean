import RunQuery.Proofs.Json.Extended
import RunQuery.Proofs.Value.NonFinite
import RunQuery.Run.Payload

/-!
# Values of runs are canonical

Whether the configuration and the metrics come as data or as a text, and however deep the values of
the configuration lie, each value of a run that a payload delivers is canonical.
-/

namespace RunQuery

/-! ## Embedded data -/

theorem Json.Extended.isCanonical_of_parse {text : String} {v : Value} (h : parse text = some v) :
    v.IsCanonical := by
  obtain ⟨json, hjson, rfl⟩ := Option.map_eq_some_iff.mp h
  obtain ⟨data, -, rfl⟩ := Option.map_eq_some_iff.mp hjson
  rw [toValue_eq_graft]
  refine data.isCanonical_canonical.graft (fun _ ↦ rfl) fun s ↦ ?_
  rw [toValue]
  split
  · rfl
  · rfl

namespace Run

theorem isCanonical_of_embedded? {json : Json} {v : Value} (hjson : json.IsCanonical)
    (h : embedded? json = some v) : v.IsCanonical := by
  unfold embedded? at h
  split at h
  · exact Json.Extended.isCanonical_of_parse h
  · cases h
  · obtain rfl := Option.some.inj h
    exact Value.isCanonical_ofJson hjson

theorem isCanonical_of_bind_embedded? {json : Option Json} {entries : List (String × Value)}
    (hjson : ∀ j ∈ json, j.IsCanonical) (h : json.bind embedded? = some (.object entries)) :
    ∀ e ∈ entries, e.2.IsCanonical := by
  obtain ⟨j, hj, hv⟩ := Option.bind_eq_some_iff.mp h
  exact (Tree.isCanonical_object_iff.mp (isCanonical_of_embedded? (hjson j hj) hv)).2

end Run

/-! ## Configurations -/

/-- Are all values of a dictionary canonical? -/
def Dict.HasCanonicalValues (d : Dict String Value) : Prop := ∀ e ∈ d.toList, e.2.IsCanonical

theorem Dict.HasCanonicalValues.insert {d : Dict String Value} (h : d.HasCanonicalValues)
    (k : String) {v : Value} (hv : v.IsCanonical) : (d.insert k v).HasCanonicalValues := by
  intro e he
  obtain rfl | hmem := mem_insertEntry he
  · exact hv
  · exact h e hmem

namespace Value

@[simp] theorem flattenMembers_eq (out : Dict String Value) (path : String)
    (members : List (String × Value)) :
    flattenMembers out path members
      = members.foldl (fun out m ↦ flattenInto out (path ++ "." ++ m.1) m.2) out := by
  induction members generalizing out with
  | nil => rfl
  | cons m members ih => rw [flattenMembers, ih, List.foldl_cons]

theorem hasCanonicalValues_flattenInto {v : Value} (hv : v.IsCanonical) {out : Dict String Value}
    (hout : out.HasCanonicalValues) (path : String) :
    (flattenInto out path v).HasCanonicalValues := by
  -- each member is written into what the members before it have left, under a longer path
  induction v using Tree.induct generalizing out path with
  | null => exact hout.insert path hv
  | bool b => exact hout.insert path hv
  | number x => exact hout.insert path hv
  | string s => exact hout.insert path hv
  | array items => exact hout.insert path hv
  | object members ih =>
    cases members with
    | nil => exact hout.insert path hv
    | cons m members =>
      rw [flattenInto, flattenMembers_eq]
      have hmembers := (Tree.isCanonical_object_iff.mp hv).2
      exact List.foldlRecOn _ _ hout fun d hd e he ↦ ih e he (hmembers e he) hd _

end Value

namespace Run

theorem hasCanonicalValues_writeConfigEntry {config : Dict String Value}
    (h : config.HasCanonicalValues) {entry : String × Value} (hentry : entry.2.IsCanonical) :
    (writeConfigEntry config entry).HasCanonicalValues := by
  rw [writeConfigEntry]
  split
  · next value hvalue =>
    exact Value.hasCanonicalValues_flattenInto (hentry.member? hvalue) h entry.1
  · exact h.insert entry.1 rfl

theorem hasCanonicalValues_configOfPayload {json : Option Json}
    (hjson : ∀ j ∈ json, j.IsCanonical) : (configOfPayload json).HasCanonicalValues := by
  rw [configOfPayload]
  split
  · next entries hentries =>
    have hcanonical := isCanonical_of_bind_embedded? hjson hentries
    exact List.foldlRecOn _ _ (fun e he ↦ nomatch he)
      fun d hd e he ↦ hasCanonicalValues_writeConfigEntry hd (hcanonical e he)
  · exact fun e he ↦ nomatch he

/-! ## Metrics -/

theorem hasCanonicalValues_summaryOfPayload {json : Option Json}
    (hjson : ∀ j ∈ json, j.IsCanonical) : (summaryOfPayload json).HasCanonicalValues := by
  rw [summaryOfPayload]
  split
  · next entries hentries =>
    exact fun e he ↦ isCanonical_of_bind_embedded? hjson hentries e (mem_of_mem_orderEntries he)
  · exact fun e he ↦ nomatch he

/-! ## Runs -/

/-- A payload with a name is never refused. -/
theorem exists_ofPayload? {payload : Json} {name : String}
    (h : textField? payload "name" = some name) : ∃ run, ofPayload? payload = some run :=
  ⟨_, Option.bind_eq_some_iff.mpr ⟨name, h, rfl⟩⟩

theorem members_of_ofPayload? {payload : Json} {run : Run} (h : ofPayload? payload = some run) :
    run.user = userOfPayload (payload.member? "user") ∧
      run.config = configOfPayload (payload.member? "config") ∧
      run.summary = summaryOfPayload (payload.member? "summaryMetrics") := by
  obtain ⟨name, -, hrun⟩ := Option.bind_eq_some_iff.mp h
  obtain rfl := Option.some.inj hrun
  exact ⟨rfl, rfl, rfl⟩

/-- **All values of a run that a payload delivers are canonical.** -/
theorem hasCanonicalValues_of_ofPayload? {payload : Json} {run : Run}
    (h : ofPayload? payload.canonical = some run) :
    run.config.HasCanonicalValues ∧ run.summary.HasCanonicalValues := by
  obtain ⟨-, hconfig, hsummary⟩ := members_of_ofPayload? h
  have hmember : ∀ name, ∀ j ∈ payload.canonical.member? name, j.IsCanonical :=
    fun name j hj ↦ payload.isCanonical_canonical.member? hj
  rw [hconfig, hsummary]
  exact ⟨hasCanonicalValues_configOfPayload (hmember "config"),
    hasCanonicalValues_summaryOfPayload (hmember "summaryMetrics")⟩

end Run

end RunQuery

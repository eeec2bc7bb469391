import RunQuery.Proofs.Run.Payload

/-!
# Flattened configurations

A configuration is what is left of the leaves of an object when each is written under its dotted
path. Different leaves may have the same path, since a name may itself contain a dot: below `a` the
member `b.c` and the member `c` of `b` both stand under `a.b.c`. Then the leaf that comes last in
the order of the members is kept.

Flattening writes leaves wherever it comes to one, into the dictionary that it is handed. The proofs
separate the two: first the leaves in their order, without a dictionary, and then that flattening
writes just these, one after the other.
-/

namespace RunQuery

namespace Value

/-! ## Leaves -/

mutual

/-- The leaves of a value, depth first, each with its dotted path. An object with members has the
leaves of its members; anything else is a leaf. -/
def leavesUnder (path : String) : Value → List (String × Value)
  | .object (m :: members) => memberLeaves path (m :: members)
  | leaf => [(path, leaf)]

/-- The leaves of members, each under the path extended by its name. -/
def memberLeaves (path : String) : List (String × Value) → List (String × Value)
  | [] => []
  | (name, value) :: members =>
    leavesUnder (path ++ "." ++ name) value ++ memberLeaves path members

end

@[simp] theorem memberLeaves_eq (path : String) (members : List (String × Value)) :
    memberLeaves path members = members.flatMap fun m ↦ leavesUnder (path ++ "." ++ m.1) m.2 := by
  induction members with
  | nil => rfl
  | cons m members ih => rw [memberLeaves, ih, List.flatMap_cons]

@[simp] theorem leavesUnder_object_cons (path : String) (m : String × Value)
    (members : List (String × Value)) :
    leavesUnder path (.object (m :: members))
      = (m :: members).flatMap fun m ↦ leavesUnder (path ++ "." ++ m.1) m.2 := by
  rw [leavesUnder, memberLeaves_eq]

theorem ne_object_of_mem_leavesUnder {value : Value} {path : String} {leaf : String × Value}
    (h : leaf ∈ leavesUnder path value) (m : String × Value) (members : List (String × Value)) :
    leaf.2 ≠ .object (m :: members) := by
  induction value using Tree.induct generalizing path with
  | null => exact List.mem_singleton.mp h ▸ nofun
  | bool b => exact List.mem_singleton.mp h ▸ nofun
  | number x => exact List.mem_singleton.mp h ▸ nofun
  | string s => exact List.mem_singleton.mp h ▸ nofun
  | array items => exact List.mem_singleton.mp h ▸ nofun
  | object inner ih =>
    rcases inner with _ | ⟨first, inner⟩
    · exact List.mem_singleton.mp h ▸ nofun
    · -- the leaves of an object are those of its members
      rw [leavesUnder_object_cons] at h
      obtain ⟨e, he, hleaf⟩ := List.mem_flatMap.mp h
      exact ih e he hleaf

/-- Flattening writes the leaves of the value, one after the other. -/
@[simp] theorem flattenInto_eq_insertAll (out : Dict String Value) (path : String) (value : Value) :
    flattenInto out path value = out.insertAll (leavesUnder path value) := by
  induction value using Tree.induct generalizing out path with
  | null => rfl
  | bool b => rfl
  | number x => rfl
  | string s => rfl
  | array items => rfl
  | object members ih =>
    rcases members with _ | ⟨m, members⟩
    · rfl
    simp only [flattenInto, flattenMembers_eq, leavesUnder_object_cons, Dict.insertAll,
      List.foldl_flatMap]
    apply List.foldl_ext
    intro written e he
    exact ih e he written _

end Value

namespace Run

/-! ## Configurations -/

/-- The leaves of one entry of a configuration. An entry without a wrapper is null. -/
def entryLeaves (entry : String × Value) : List (String × Value) :=
  match entry.2.member? "value" with
  | some value => Value.leavesUnder entry.1 value
  | none => [(entry.1, .null)]

/-- The leaves of a configuration, in the order of its entries. -/
def configLeaves (entries : List (String × Value)) : List (String × Value) :=
  entries.flatMap entryLeaves

theorem writeConfigEntry_eq_insertAll (config : Dict String Value) (entry : String × Value) :
    writeConfigEntry config entry = config.insertAll (entryLeaves entry) := by
  rw [writeConfigEntry, entryLeaves]
  cases entry.2.member? "value" with
  | some value => simp
  | none => rfl

theorem ne_object_of_mem_configLeaves {entries : List (String × Value)} {leaf : String × Value}
    (h : leaf ∈ configLeaves entries) (m : String × Value) (members : List (String × Value)) :
    leaf.2 ≠ .object (m :: members) := by
  obtain ⟨entry, -, hleaf⟩ := List.mem_flatMap.mp h
  rw [entryLeaves] at hleaf
  split at hleaf
  · exact Value.ne_object_of_mem_leavesUnder hleaf m members
  · exact List.mem_singleton.mp hleaf ▸ nofun

theorem configOfPayload_eq_ofList {json : Option Json} {entries : List (String × Value)}
    (h : json.bind embedded? = some (.object entries)) :
    configOfPayload json = Dict.ofList (configLeaves entries) := by
  rw [configOfPayload, h, ← Dict.insertAll_empty, configLeaves, Dict.insertAll, List.foldl_flatMap]
  apply List.foldl_ext
  intro written e _
  exact writeConfigEntry_eq_insertAll written e

/-- **A configuration keeps exactly the leaves.** Its paths are those of the leaves that stand in
the object, in the order of its keys at every depth; under each path stands the last of the leaves
that have it; and none of them is an object with members. Flattening writes the leaves in their
order, whatever was written before, and leaves what stands under other paths as it is. -/
theorem config_of_ofPayload? {payload : Json} {run : Run} {entries : List (String × Value)}
    (h : ofPayload? payload.canonical = some run)
    (hentries : (payload.canonical.member? "config").bind embedded? = some (.object entries)) :
    (Tree.object entries).IsCanonical ∧
      (∀ path, path ∈ run.config.keys ↔ path ∈ (configLeaves entries).map Prod.fst) ∧
      (∀ path, run.config.get? path
        = ((configLeaves entries).filter fun leaf ↦ leaf.1 = path).getLast?.map Prod.snd) ∧
      (∀ e ∈ run.config.toList, ∀ m members, e.2 ≠ .object (m :: members)) ∧
      ∀ out path value,
        Value.flattenInto out path value = out.insertAll (Value.leavesUnder path value) ∧
        ∀ other, other ∉ (Value.leavesUnder path value).map Prod.fst →
          (Value.flattenInto out path value).get? other = out.get? other := by
  have hconfig : run.config = Dict.ofList (configLeaves entries) :=
    (members_of_ofPayload? h).2.1.trans (configOfPayload_eq_ofList hentries)
  have hget (path : String) : run.config.get? path
      = ((configLeaves entries).filter fun leaf ↦ leaf.1 = path).getLast?.map Prod.snd := by
    rw [hconfig, ← Dict.get?_ofList_map, List.map_id']
  refine ⟨?_, ?_, hget, ?_, ?_⟩
  · obtain ⟨json, hjson, hvalue⟩ := Option.bind_eq_some_iff.mp hentries
    exact isCanonical_of_embedded? (payload.isCanonical_canonical.member? hjson) hvalue
  · intro path
    rw [Dict.mem_keys_iff, hget]
    simp only [Option.map_eq_some_iff, List.mem_map]
    constructor
    · rintro ⟨_, leaf, hlast, -⟩
      obtain ⟨hmem, hpath⟩ := List.mem_filter.mp (List.mem_of_getLast? hlast)
      exact ⟨leaf, hmem, of_decide_eq_true hpath⟩
    · rintro ⟨leaf, hmem, rfl⟩
      have hne : (configLeaves entries).filter (fun l ↦ l.1 = leaf.1) ≠ [] :=
        List.ne_nil_of_mem (List.mem_filter.mpr ⟨hmem, decide_eq_true rfl⟩)
      exact ⟨_, _, List.getLast?_eq_some_getLast hne, rfl⟩
  · intro e he
    rw [hconfig] at he
    exact ne_object_of_mem_configLeaves (mem_of_mem_orderEntries he)
  · intro out path value
    refine ⟨Value.flattenInto_eq_insertAll out path value, fun other hother ↦ ?_⟩
    rw [Value.flattenInto_eq_insertAll, Dict.get?_insertAll_of_not_mem hother]

/-- A payload in whose configuration three leaves have the same path. -/
def sharedPathPayload : Json := .object [
  ("config", .object [
    ("a", .object [("value", .object [
      ("b", .object [("c", .number (.int 1))]), ("b.c", .number (.int 2)), ("d", .object []),
      ("e", .array [.object [("c", .null)]])])]),
    ("a.b", .object [("value", .object [("c", .number (.int 3))])]),
    ("k", .object [("desc", .string "x")])]),
  ("name", .string "r")]

/-- The leaf of the last entry is kept, beside an empty object, a list and an entry without a
wrapper. -/
theorem config_of_sharedPathPayload :
    ∃ run, ofPayload? sharedPathPayload.canonical = some run ∧
      (∀ path, path ∈ run.config.keys ↔ path ∈ ["a.b.c", "a.b.c", "a.d", "a.e", "a.b.c", "k"]) ∧
      run.config.get? "a.b.c" = some (.number (Double.ofInt 3)) ∧
      run.config.get? "a.d" = some (.object []) ∧
      run.config.get? "a.e" = some (.array [.object [("c", .null)]]) ∧
      run.config.get? "k" = some .null := by
  obtain ⟨run, hrun⟩ : ∃ run, ofPayload? sharedPathPayload.canonical = some run := ⟨_, rfl⟩
  obtain ⟨-, hkeys, hget, -⟩ := config_of_ofPayload? hrun rfl
  refine ⟨run, hrun, hkeys, (hget _).trans ?_, (hget _).trans ?_, (hget _).trans ?_,
    (hget _).trans ?_⟩
  · rfl
  · rfl
  · rfl
  · rfl

end Run

end RunQuery

import RunQuery.Proofs.Dict.Entries
import RunQuery.Proofs.Selection.Independence

/-!
# Ranges by key as a filter and back

Ranges by key are asked for by one `AND` of all their ends, and the ranges of some keys are read out
of a selection. Both together give the ranges back, as long as all of their keys are asked about and
no range is without ends; nothing else is lost, and no other key comes in.

The filter is one list of conditions for all keys, and the range of a key is folded from those on
it. They are the ends of a single range, at most one on each side. So the fold takes every end over
as it is and never compares two numbers, which makes ends that meet, are infinite or are no numbers
as good as any.
-/

namespace RunQuery.AxisRanges

open Selection (bounds conditionsOn IsOn)

/-! ## From ranges to conditions -/

theorem isOn_of_mem_conditions {key : Key} {range : Bounds} {node : Filter}
    (h : node ∈ conditions key range) : IsOn key node := by
  rcases List.mem_append.mp h with h | h
  · obtain ⟨x, -, rfl⟩ := Option.map_eq_some_iff.mp (Option.mem_toList.mp h)
    exact ⟨_, rfl, rfl⟩
  · obtain ⟨x, -, rfl⟩ := Option.map_eq_some_iff.mp (Option.mem_toList.mp h)
    exact ⟨_, rfl, rfl⟩

theorem bounds_all_conditions (key : Key) (range : Bounds) :
    bounds (Filter.all (conditions key range)) key = range := by
  obtain ⟨low, high⟩ := range
  cases low with
  | none =>
    cases high with
    | none => rfl
    | some y => exact if_pos rfl
  | some x =>
    cases high with
    | none => exact if_pos rfl
    | some y =>
      simp [bounds, conditions, Filter.leaves, Filter.leavesList, Bounds.tighten,
        Value.toNumber?, Operator.isLowerBound, Operator.isUpperBound, Bounds.unbounded]

theorem conditionsOn_flatMap {entries : List (Key × Bounds)} (h : KeysIncrease entries)
    (key : Key) :
    conditionsOn key (entries.flatMap fun (key, range) ↦ conditions key range)
      = conditionsOn key (conditions key ((lookupEntry key entries).getD Bounds.unbounded)) := by
  induction entries with
  | nil => rfl
  | cons e rest ih =>
    obtain ⟨key', range⟩ := e
    have hrest := ih (List.pairwise_cons.mp h).2
    rw [List.flatMap_cons, Selection.conditionsOn_append, hrest, lookupEntry]
    by_cases hkey : key = key'
    · subst hkey
      -- a key stands in a dictionary only once, so the other ranges have no condition on it
      rw [h.lookupEntry_tail, if_pos Std.ReflCmp.compare_self]
      exact List.append_nil _
    · have hne : compare key key' ≠ .eq := fun heq ↦ hkey (Std.LawfulEqCmp.eq_of_compare heq)
      rw [Selection.conditionsOn_eq_nil hkey fun node hnode ↦ isOn_of_mem_conditions hnode,
        List.nil_append, if_neg hne]

theorem bounds_toFilter (ranges : AxisRanges) (key : Key) :
    bounds ranges.toFilter key = (ranges.get? key).getD Bounds.unbounded := by
  rw [toFilter, Selection.bounds_all, conditionsOn_flatMap ranges.keysIncrease,
    ← Selection.bounds_all, bounds_all_conditions, Dict.get?]

/-! ## From a selection to ranges -/

theorem get?_ofSelection_eq_some_iff {selection : Filter} {keys : List Key} {key : Key}
    {range : Bounds} :
    (ofSelection selection keys).get? key = some range ↔
      key ∈ keys ∧ bounds selection key = range ∧ range.isUnbounded = false := by
  -- a later key writes over an earlier one, so the induction is on the keys from the end
  induction keys using List.reverseRecOn with
  | nil => exact iff_of_false nofun fun h ↦ List.not_mem_nil h.1
  | append_singleton keys last ih =>
    rw [ofSelection, List.foldl_append, ← ofSelection, List.foldl_cons, List.foldl_nil,
      List.mem_append, List.mem_singleton]
    dsimp only
    by_cases hunbounded : (bounds selection last).isUnbounded = true
    · -- nothing is written under the last key, here or before
      rw [if_pos hunbounded, ih]
      constructor
      · exact fun ⟨hmem, hrange⟩ ↦ ⟨.inl hmem, hrange⟩
      · rintro ⟨hmem | rfl, rfl, hrange⟩
        · exact ⟨hmem, rfl, hrange⟩
        · rw [hunbounded] at hrange
          cases hrange
    · rw [if_neg hunbounded]
      by_cases hkey : key = last
      · subst hkey
        rw [Dict.get?_insert_self, Option.some.injEq]
        constructor
        · rintro rfl
          exact ⟨.inr rfl, rfl, Bool.eq_false_iff.mpr hunbounded⟩
        · exact fun h ↦ h.2.1
      · rw [Dict.get?_insert_of_ne hkey, ih, or_iff_left hkey]

/-! ## There and back -/

theorem get?_ofSelection_toFilter_eq_some_iff {ranges : AxisRanges} {keys : List Key} {key : Key}
    {range : Bounds} :
    (ofSelection ranges.toFilter keys).get? key = some range ↔
      key ∈ keys ∧ ranges.get? key = some range ∧ range.isUnbounded = false := by
  rw [get?_ofSelection_eq_some_iff, bounds_toFilter]
  refine and_congr_right fun _ ↦ and_congr_left fun hrange ↦ ?_
  cases ranges.get? key with
  | none =>
    refine iff_of_false ?_ nofun
    rintro rfl
    cases hrange
  | some other => exact (Option.some.injEq other range).symm.to_iff

/-- **Ranges are read back from their filter** exactly if each of them has an end and all of their
keys are asked about, in whatever order, however often, and beside whatever other keys. -/
theorem ofSelection_toFilter_eq_self_iff (ranges : AxisRanges) (keys : List Key) :
    ofSelection ranges.toFilter keys = ranges ↔
      (∀ e ∈ ranges.toList, e.2.isUnbounded = false) ∧ ∀ key ∈ ranges.keys, key ∈ keys := by
  constructor
  · intro heq
    have hback : ∀ key range, ranges.get? key = some range →
        key ∈ keys ∧ range.isUnbounded = false := by
      intro key range hget
      rw [← heq] at hget
      obtain ⟨hkeys, -, hrange⟩ := get?_ofSelection_toFilter_eq_some_iff.mp hget
      exact ⟨hkeys, hrange⟩
    refine ⟨fun e he ↦ (hback e.1 e.2 (Dict.mem_toList_iff.mp he)).2, fun key hkey ↦ ?_⟩
    obtain ⟨range, hget⟩ := Dict.mem_keys_iff.mp hkey
    exact (hback key range hget).1
  · rintro ⟨hends, hkeys⟩
    refine Dict.ext_get? fun key ↦ Option.ext fun range ↦ ?_
    rw [get?_ofSelection_toFilter_eq_some_iff]
    constructor
    · exact fun h ↦ h.2.1
    · intro hget
      exact ⟨hkeys key (Dict.mem_keys_iff.mpr ⟨range, hget⟩), hget,
        hends (key, range) (Dict.mem_toList_iff.mpr hget)⟩

/-- An end that is no number beside an infinite one, and two ends that meet, come back, though the
keys are asked about in another order, one of them twice, and one without a range. -/
theorem ofSelection_toFilter_of_ends_of_all_kinds :
    let rate : Key := ⟨.config, "lr"⟩
    let loss : Key := ⟨.summary, "loss"⟩
    let tag : Key := ⟨.tags, "best"⟩
    let ranges : AxisRanges := Dict.ofList
      [(rate, ⟨some .nan, some (.infinity false)⟩), (loss, ⟨some Double.zero, some Double.zero⟩)]
    ranges.keys = [rate, loss] ∧
      ofSelection ranges.toFilter [loss, tag, rate, loss] = ranges := by
  intro rate loss tag ranges
  exact ⟨by decide, (ofSelection_toFilter_eq_self_iff ranges _).mpr ⟨by decide, by decide⟩⟩

end RunQuery.AxisRanges

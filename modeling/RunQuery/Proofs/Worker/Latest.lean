import Mathlib.Data.List.Induction
import Mathlib.Data.List.Nodup
import RunQuery.Worker.Basic

/-!
# The newest response

Responses may come in late and in any order. What is held after each of them is the newest of all
that have come in so far, and of several with one generation the first. Where every generation
occurs once this does not depend on the order: the newest response of a list is the newest of any
other order of it.

The generation of a holder that holds nothing is zero, and no response that a worker gives has that
generation. So a response is taken exactly if it is newer than all before it, the first one too.
-/

namespace RunQuery.LatestResponse

/-- What is held after responses have come in one after another. -/
def afterAll (l : LatestResponse) (offers : List TaggedResponse) : LatestResponse :=
  offers.foldl (fun l t ↦ (l.offer t).2) l

/-- Is the newest of the responses held, and of several with one generation the first? -/
inductive IsNewest (offers : List TaggedResponse) : LatestResponse → Prop
  /-- Nothing is held if no response has a generation. -/
  | nothing (h : ∀ t ∈ offers, t.generation = 0) : IsNewest offers none
  /-- All before the response are older than it, and none after it is newer. -/
  | newest (before : List TaggedResponse) (t : TaggedResponse) (after : List TaggedResponse)
    (heq : offers = before ++ t :: after) (hpos : 0 < t.generation)
    (hbefore : ∀ u ∈ before, u.generation < t.generation)
    (hafter : ∀ u ∈ after, u.generation ≤ t.generation) :
    IsNewest offers ⟨t.generation, some t.response⟩

section

variable {offers others : List TaggedResponse} {l l' : LatestResponse} {t : TaggedResponse}

/-! ## One response -/

@[simp] theorem fst_offer_eq_true_iff : (l.offer t).1 = true ↔ l.generation < t.generation := by
  rw [offer]
  split
  · exact iff_of_false nofun (by omega)
  · exact iff_of_true rfl (by omega)

@[simp] theorem generation_le_offer : l.generation ≤ (l.offer t).2.generation := by
  rw [offer]
  split
  · exact Nat.le_refl _
  · next hlt => exact Nat.le_of_lt (Nat.lt_of_not_le hlt)

theorem IsNewest.generation_le (h : IsNewest offers l) (ht : t ∈ offers) :
    t.generation ≤ l.generation := by
  cases h with
  | nothing h => exact Nat.le_of_eq (h t ht)
  | newest before newest after heq hpos hbefore hafter =>
    subst heq
    obtain hmem | rfl | hmem := (List.mem_append.trans (or_congr_right List.mem_cons)).mp ht
    · exact Nat.le_of_lt (hbefore t hmem)
    · exact Nat.le_refl _
    · exact hafter t hmem

theorem IsNewest.generation_lt_iff (h : IsNewest offers l) :
    l.generation < t.generation ↔
      0 < t.generation ∧ ∀ u ∈ offers, u.generation < t.generation := by
  constructor
  · intro hlt
    exact ⟨by omega, fun u hu ↦ Nat.lt_of_le_of_lt (h.generation_le hu) hlt⟩
  · rintro ⟨hpos, hall⟩
    cases h with
    | nothing h => exact hpos
    | newest before newest after heq => exact hall newest (by simp [heq])

theorem IsNewest.offer (h : IsNewest offers l) (t : TaggedResponse) :
    IsNewest (offers ++ [t]) (l.offer t).2 := by
  rw [LatestResponse.offer]
  split
  · next hle =>
    -- one more response that is not newer than what is held
    cases h with
    | nothing h =>
      refine .nothing fun u hu ↦ ?_
      obtain hu | hu := List.mem_append.mp hu
      · exact h u hu
      · obtain rfl := List.mem_singleton.mp hu
        exact Nat.le_zero.mp hle
    | newest before newest after heq hpos hbefore hafter =>
      refine .newest before newest (after ++ [t]) (by simp [heq]) hpos hbefore fun u hu ↦ ?_
      obtain hu | hu := List.mem_append.mp hu
      · exact hafter u hu
      · obtain rfl := List.mem_singleton.mp hu
        exact hle
  · next hlt =>
    -- all before are older, and nothing has come after it yet
    obtain ⟨hpos, hall⟩ := h.generation_lt_iff.mp (Nat.lt_of_not_le hlt)
    exact .newest offers t [] rfl hpos hall nofun

/-! ## One response after another -/

@[simp] theorem afterAll_concat (l : LatestResponse) (offers : List TaggedResponse)
    (t : TaggedResponse) :
    l.afterAll (offers ++ [t]) = ((l.afterAll offers).offer t).2 :=
  List.foldl_append ..

/-- The newest response is held at any time. -/
theorem isNewest_afterAll (offers : List TaggedResponse) :
    IsNewest offers (none.afterAll offers) := by
  induction offers using List.reverseRecOn with
  | nil => exact .nothing nofun
  | append_singleton offers t ih => simpa using ih.offer t

/-- Of responses with different generations the newest is held. -/
theorem IsNewest.eq_of_forall_le (h : IsNewest offers l)
    (hdistinct : (offers.map (·.generation)).Nodup) (hpos : 0 < t.generation) (ht : t ∈ offers)
    (hmax : ∀ u ∈ offers, u.generation ≤ t.generation) :
    l = ⟨t.generation, some t.response⟩ := by
  have hle : t.generation ≤ l.generation := h.generation_le ht
  cases h with
  | nothing h => exact absurd (h t ht) (Nat.ne_of_gt hpos)
  | newest before newest after heq =>
    have hmem : newest ∈ offers := by simp [heq]
    obtain rfl : newest = t :=
      List.inj_on_of_nodup_map hdistinct hmem ht (Nat.le_antisymm (hmax newest hmem) hle)
    rfl

theorem IsNewest.eq_of_perm (h : IsNewest offers l) (h' : IsNewest others l')
    (hdistinct : (offers.map (·.generation)).Nodup) (hperm : offers.Perm others) : l = l' := by
  cases h' with
  | nothing hzero =>
    cases h with
    | nothing => rfl
    | newest before t after heq hpos =>
      have hmem : t ∈ others := hperm.mem_iff.mp (by simp [heq])
      exact absurd (hzero t hmem) (Nat.ne_of_gt hpos)
  | newest before t after heq hpos hbefore hafter =>
    have hmem : t ∈ others := by simp [heq]
    have hmax : ∀ u ∈ others, u.generation ≤ t.generation := fun u hu ↦
      (IsNewest.newest before t after heq hpos hbefore hafter).generation_le hu
    exact h.eq_of_forall_le hdistinct hpos (hperm.mem_iff.mpr hmem) fun u hu ↦
      hmax u (hperm.mem_iff.mp hu)

/-- **The newest response wins**, whatever order responses come in. After each of them the newest
so far is held, and of several with one generation the first; so a response is taken exactly if it
is newer than all before it, and the generation never decreases. If every generation occurs once,
what is held in the end is the newest response of all and depends on no order. -/
theorem isNewest_afterAll_and_eq_of_perm (offers : List TaggedResponse) :
    IsNewest offers (none.afterAll offers) ∧
    (∀ before t after, offers = before ++ t :: after →
      (((none.afterAll before).offer t).1 = true ↔
        0 < t.generation ∧ ∀ u ∈ before, u.generation < t.generation) ∧
      none.afterAll (before ++ [t]) = ((none.afterAll before).offer t).2 ∧
      (none.afterAll before).generation ≤ (none.afterAll (before ++ [t])).generation) ∧
    ((∀ t ∈ offers, 1 ≤ t.generation) → (offers.map (·.generation)).Nodup →
      (∀ t ∈ offers, (∀ u ∈ offers, u.generation ≤ t.generation) →
        none.afterAll offers = ⟨t.generation, some t.response⟩) ∧
      ∀ others, offers.Perm others → none.afterAll others = none.afterAll offers) := by
  refine ⟨isNewest_afterAll offers, ?_, ?_⟩
  · rintro before t after -
    simpa using (isNewest_afterAll before).generation_lt_iff
  · intro hpos hdistinct
    constructor
    · intro t ht hmax
      exact (isNewest_afterAll offers).eq_of_forall_le hdistinct (hpos t ht) ht hmax
    · intro others hperm
      exact ((isNewest_afterAll offers).eq_of_perm (isNewest_afterAll others) hdistinct hperm).symm

/-- Three responses with different numbers of rows, the last one late. -/
def lateResponses : List TaggedResponse :=
  [⟨1, { Response.empty with totalRows := 10 }⟩, ⟨3, { Response.empty with totalRows := 30 }⟩,
    ⟨2, { Response.empty with totalRows := 20 }⟩]

/-- The late one is not taken, and the other way round the second one is held in the end too. -/
theorem afterAll_lateResponses :
    ((none.afterAll (lateResponses.take 2)).offer ⟨2, { Response.empty with totalRows := 20 }⟩).1
      = false ∧
    none.afterAll lateResponses = ⟨3, some { Response.empty with totalRows := 30 }⟩ ∧
    none.afterAll lateResponses.reverse = none.afterAll lateResponses := by
  obtain ⟨-, hstep, hfinal⟩ := isNewest_afterAll_and_eq_of_perm lateResponses
  obtain ⟨hheld, hperm⟩ := hfinal (by decide) (by decide)
  refine ⟨?_, ?_, hperm _ lateResponses.reverse_perm.symm⟩
  · rw [Bool.eq_false_iff, ne_eq, (hstep _ _ [] rfl).1]
    decide
  · exact hheld ⟨3, { Response.empty with totalRows := 30 }⟩ (by simp [lateResponses]) (by decide)

end

end RunQuery.LatestResponse

import RunQuery.Proofs.Double.Rounding
import RunQuery.Proofs.Tree.Canonical
import RunQuery.Value.Basic

/-!
# Values as JSON and back

JSON has no number that is not finite, so such a number is written as a word, which is read as a
text. Apart from that the JSON form of a value is the value again. Reading the words as numbers
brings those numbers back, and makes numbers of the texts that were the same words.

What the way through JSON changes is therefore no more than what restoring changes: a value is
restored to the same whether it went through JSON or not. So it is read back exactly if it holds no
word to begin with, and since a restored value holds none, restoring it again does nothing. All of
this is about texts. A word that names a member is never touched, which the outline of a value
shows.
-/

namespace RunQuery

namespace NonFinite

@[simp] theorem ofDouble?_eq_none_iff {x : Double} : ofDouble? x = none ↔ x.isFinite = true := by
  cases x with
  | nan => exact iff_of_false nofun nofun
  | signed negative r =>
    rw [ofDouble?, Double.isFinite_iff]
    by_cases h : r.val = infinityRank
    · rw [if_pos h]
      exact iff_of_false nofun fun hne ↦ hne h
    · rw [if_neg h]
      exact iff_of_true rfl h

theorem toDouble_of_ofDouble? {x : Double} {n : NonFinite} (h : ofDouble? x = some n) :
    n.toDouble = x := by
  cases x with
  | nan =>
    cases h
    rfl
  | signed negative r =>
    obtain ⟨hr, heq⟩ := Option.ite_none_right_eq_some.mp h
    obtain rfl : r = Rank.infinity := Fin.ext hr
    cases heq
    cases negative with
    | false => rfl
    | true => rfl

@[simp] theorem ofWord?_eq_none_iff {s : String} : ofWord? s = none ↔ ∀ n, s ≠ word n := by
  rw [ofWord?, List.find?_eq_none]
  refine forall_congr' fun n ↦ ?_
  simp only [mem_all, true_imp_iff, beq_iff_eq, ne_eq, eq_comm (a := s)]

@[simp] theorem ofWord?_word (n : NonFinite) : ofWord? n.word = some n := by
  cases n with
  | nan => decide
  | infinity => decide
  | negInfinity => decide

end NonFinite

namespace Value

/-! ## As grafts -/

@[simp] theorem itemsToJson_eq (items : List Value) : itemsToJson items = items.map toJson := by
  induction items with
  | nil => rfl
  | cons item items ih => rw [itemsToJson, ih, List.map_cons]

@[simp] theorem membersToJson_eq (members : List (String × Value)) :
    membersToJson members = members.map fun m ↦ (m.1, toJson m.2) := by
  induction members with
  | nil => rfl
  | cons m members ih => rw [membersToJson, ih, List.map_cons]

theorem toJson_eq_graft (v : Value) : v.toJson = v.graft (fun x ↦ toJson (.number x)) .string := by
  induction v using Tree.induct with
  | null => rfl
  | bool b => rfl
  | number x => rfl
  | string s => rfl
  | array items ih => simpa [toJson] using ih
  | object members ih => simpa [toJson] using ih

@[simp] theorem restoreItems_eq (items : List Value) :
    restoreItems items = items.map restoreNonFinite := by
  induction items with
  | nil => rfl
  | cons item items ih => rw [restoreItems, ih, List.map_cons]

@[simp] theorem restoreMembers_eq (members : List (String × Value)) :
    restoreMembers members = members.map fun m ↦ (m.1, restoreNonFinite m.2) := by
  induction members with
  | nil => rfl
  | cons m members ih => rw [restoreMembers, ih, List.map_cons]

theorem restoreNonFinite_eq_graft (v : Value) :
    v.restoreNonFinite = v.graft .number fun s ↦ restoreNonFinite (.string s) := by
  induction v using Tree.induct with
  | null => rfl
  | bool b => rfl
  | number x => rfl
  | string s => rfl
  | array items ih => simpa [restoreNonFinite] using ih
  | object members ih => simpa [restoreNonFinite] using ih

theorem ofJson_eq_graft (json : Json) :
    ofJson json = json.graft (fun n ↦ .number n.toDouble) .string :=
  Tree.map_eq_graft ..

/-! ## Numbers -/

theorem toJson_number {x : Double} (h : x.isFinite = true) :
    toJson (.number x) = .number (.float x) := by
  rw [toJson, NonFinite.ofDouble?_eq_none_iff.mpr h]

theorem toJson_nonFinite {x : Double} {n : NonFinite} (h : NonFinite.ofDouble? x = some n) :
    toJson (.number x) = .string n.word := by
  rw [toJson, h]

theorem isScalar_toJson_number (x : Double) : (toJson (.number x)).isScalar = true := by
  cases h : NonFinite.ofDouble? x with
  | none => rw [toJson_number (NonFinite.ofDouble?_eq_none_iff.mp h)]; rfl
  | some n => rw [toJson_nonFinite h]; rfl

/-! ## Words -/

theorem restoreNonFinite_word {s : String} {n : NonFinite} (h : NonFinite.ofWord? s = some n) :
    restoreNonFinite (.string s) = .number n.toDouble := by
  rw [restoreNonFinite, h]

theorem restoreNonFinite_text {s : String} (h : NonFinite.ofWord? s = none) :
    restoreNonFinite (.string s) = .string s := by
  rw [restoreNonFinite, h]

@[simp] theorem mem_strings_restoreNonFinite_iff {v : Value} {s : String} :
    s ∈ v.restoreNonFinite.strings ↔ s ∈ v.strings ∧ ∀ n, s ≠ NonFinite.word n := by
  rw [restoreNonFinite_eq_graft, Tree.strings_graft fun _ ↦ rfl, List.mem_flatMap,
    ← NonFinite.ofWord?_eq_none_iff]
  constructor
  · rintro ⟨t, ht, hs⟩
    cases h : NonFinite.ofWord? t with
    | none =>
      rw [restoreNonFinite_text h] at hs
      obtain rfl := List.mem_singleton.mp hs
      exact ⟨ht, h⟩
    | some n =>
      rw [restoreNonFinite_word h] at hs
      cases hs
  · rintro ⟨hs, h⟩
    refine ⟨s, hs, ?_⟩
    rw [restoreNonFinite_text h]
    exact List.mem_singleton_self s

@[simp] theorem restoreNonFinite_eq_self_iff {v : Value} :
    v.restoreNonFinite = v ↔ ∀ s ∈ v.strings, ∀ n, s ≠ NonFinite.word n := by
  have hstring : ∀ s : String, restoreNonFinite (.string s) = .string s ↔
      ∀ n, s ≠ NonFinite.word n := by
    intro s
    rw [← NonFinite.ofWord?_eq_none_iff]
    cases h : NonFinite.ofWord? s with
    | none => exact iff_of_true (restoreNonFinite_text h) rfl
    | some n =>
      rw [restoreNonFinite_word h]
      exact iff_of_false nofun nofun
  rw [restoreNonFinite_eq_graft, Tree.graft_eq_self_iff]
  simp only [hstring, implies_true, true_and]

/-! ## There and back -/

theorem ofJson_toJson_eq_graft (v : Value) :
    ofJson v.toJson = v.graft (fun x ↦ ofJson (toJson (.number x))) .string := by
  rw [ofJson_eq_graft, toJson_eq_graft, Tree.graft_graft]
  simp only [ofJson_eq_graft]
  rfl

/-- **A value is read back from its JSON form exactly if all of its numbers are finite.** -/
theorem ofJson_toJson_eq_self_iff {v : Value} :
    ofJson v.toJson = v ↔ ∀ x ∈ v.numbers, x.isFinite = true := by
  rw [ofJson_toJson_eq_graft, Tree.graft_eq_self_iff]
  have hnumber : ∀ x : Double, ofJson (toJson (.number x)) = .number x ↔ x.isFinite = true := by
    intro x
    cases h : NonFinite.ofDouble? x with
    | none =>
      have hfinite := NonFinite.ofDouble?_eq_none_iff.mp h
      rw [toJson_number hfinite]
      exact iff_of_true rfl hfinite
    | some n =>
      rw [toJson_nonFinite h, ← NonFinite.ofDouble?_eq_none_iff, h]
      exact iff_of_false nofun nofun
  simp only [hnumber, implies_true, and_true]

/-- Once the words are read as numbers, nothing is left of the way through JSON. -/
theorem restoreNonFinite_ofJson_toJson (v : Value) :
    (ofJson v.toJson).restoreNonFinite = v.restoreNonFinite := by
  have hnumber : ∀ x : Double, restoreNonFinite (ofJson (toJson (.number x))) = .number x := by
    intro x
    cases h : NonFinite.ofDouble? x with
    | none =>
      rw [toJson_number (NonFinite.ofDouble?_eq_none_iff.mp h)]
      rfl
    | some n =>
      rw [toJson_nonFinite h]
      exact (restoreNonFinite_word (NonFinite.ofWord?_word n)).trans
        (congrArg Tree.number (NonFinite.toDouble_of_ofDouble? h))
  -- one graft on either side, and both leave at every leaf what restoring leaves there
  rw [ofJson_toJson_eq_graft, restoreNonFinite_eq_graft, Tree.graft_graft,
    restoreNonFinite_eq_graft v]
  simp only [← restoreNonFinite_eq_graft, hnumber]

/-- **With its words read as numbers again, a value is read back exactly if none of its texts is
such a word.** -/
theorem restoreNonFinite_ofJson_toJson_eq_self_iff {v : Value} :
    (ofJson v.toJson).restoreNonFinite = v ↔ ∀ s ∈ v.strings, ∀ n, s ≠ NonFinite.word n := by
  rw [restoreNonFinite_ofJson_toJson, restoreNonFinite_eq_self_iff]

/-- Restoring twice is restoring once, since no word is left the first time. -/
@[simp] theorem restoreNonFinite_restoreNonFinite (v : Value) :
    v.restoreNonFinite.restoreNonFinite = v.restoreNonFinite :=
  restoreNonFinite_eq_self_iff.mpr fun _ hs ↦ (mem_strings_restoreNonFinite_iff.mp hs).2

/-! ## Names -/

@[simp] theorem outline_toJson (v : Value) : v.toJson.outline = v.outline := by
  rw [toJson_eq_graft]
  refine Tree.outline_graft (fun x ↦ ?_) (fun _ ↦ rfl) v
  cases h : NonFinite.ofDouble? x with
  | none =>
    rw [toJson_number (NonFinite.ofDouble?_eq_none_iff.mp h)]
    rfl
  | some n =>
    rw [toJson_nonFinite h]
    rfl

@[simp] theorem outline_ofJson (json : Json) : (ofJson json).outline = json.outline := by
  rw [ofJson_eq_graft]
  exact Tree.outline_graft (fun _ ↦ rfl) (fun _ ↦ rfl) json

@[simp] theorem outline_restoreNonFinite (v : Value) : v.restoreNonFinite.outline = v.outline := by
  rw [restoreNonFinite_eq_graft]
  refine Tree.outline_graft (fun _ ↦ rfl) (fun s ↦ ?_) v
  cases h : NonFinite.ofWord? s with
  | none =>
    rw [restoreNonFinite_text h]
    rfl
  | some n =>
    rw [restoreNonFinite_word h]
    rfl

/-- **Numbers that are not finite survive JSON.** A value without a word among its texts, and no
other, is read back from its JSON form as it was, once words are read as numbers. Whatever the
texts are, each of the three steps keeps every list, every object and every name of a member, names
that are words included; and words are read as numbers once and for all. -/
theorem restoreNonFinite_ofJson_toJson_and_outline (v : Value) :
    ((ofJson v.toJson).restoreNonFinite = v ↔ ∀ s ∈ v.strings, ∀ n, s ≠ NonFinite.word n) ∧
      (v.toJson.outline = v.outline ∧ (ofJson v.toJson).outline = v.outline ∧
        (ofJson v.toJson).restoreNonFinite.outline = v.outline) ∧
      v.restoreNonFinite.restoreNonFinite = v.restoreNonFinite := by
  refine ⟨restoreNonFinite_ofJson_toJson_eq_self_iff, ?_, ?_⟩
  · simp only [outline_toJson, outline_ofJson, outline_restoreNonFinite, and_self]
  · exact restoreNonFinite_restoreNonFinite v

/-- Words may name members, and a text may be another spelling of a word. -/
example :
    let v : Value := .object [("-Infinity", .array [.string "nan", .number .nan]),
      ("NaN", .number (Double.infinity true))]
    (ofJson v.toJson).restoreNonFinite = v := by
  rfl

/-! ## Canonical forms -/

theorem isCanonical_toJson {v : Value} (h : v.IsCanonical) : v.toJson.IsCanonical := by
  rw [toJson_eq_graft]
  exact h.graft isScalar_toJson_number fun _ ↦ rfl

theorem isCanonical_ofJson {json : Json} (h : json.IsCanonical) : (ofJson json).IsCanonical := by
  rw [ofJson_eq_graft]
  exact h.graft (fun _ ↦ rfl) fun _ ↦ rfl

end Value

end RunQuery

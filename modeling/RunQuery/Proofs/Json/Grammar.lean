import Mathlib.Data.List.Basic
import RunQuery.Json.Reader
import RunQuery.Proofs.Tree.Leaves

/-!
# The tokens of a document

Data has just one sequence of tokens: brackets around items and members, commas between them, and a
colon after each key. The reader takes a sequence of tokens exactly if it is that of some data that
is not nested too deeply, and then reads that data.

One direction follows the data. The other one follows the reader: whatever state it is in, the
tokens taken so far can be told from the state, and each step adds the token it takes.
-/

namespace RunQuery

open Json (Token)

/-! ## Tokens of data -/

namespace Tree

variable {ν : Type} (ofNumber : ν → Token)

mutual

/-- The tokens of data, `ofNumber` giving those of its numbers. -/
def tokens : Tree ν → List Token
  | null => [.null]
  | bool b => [.bool b]
  | number n => [ofNumber n]
  | string s => [.string s]
  | array items => .beginArray :: itemTokens items ++ [.endArray]
  | object members => .beginObject :: memberTokens members ++ [.endObject]

def itemTokens : List (Tree ν) → List Token
  | [] => []
  | [item] => tokens item
  | item :: items => tokens item ++ .comma :: itemTokens items

def memberTokens : List (String × Tree ν) → List Token
  | [] => []
  | [(key, value)] => .string key :: .colon :: tokens value
  | (key, value) :: members =>
    .string key :: .colon :: tokens value ++ .comma :: memberTokens members

end

@[simp] theorem itemTokens_cons_cons (first second : Tree ν) (items : List (Tree ν)) :
    itemTokens ofNumber (first :: second :: items)
      = first.tokens ofNumber ++ .comma :: itemTokens ofNumber (second :: items) :=
  rfl

@[simp] theorem memberTokens_cons_cons (first second : String × Tree ν)
    (members : List (String × Tree ν)) :
    memberTokens ofNumber (first :: second :: members)
      = .string first.1 :: .colon :: first.2.tokens ofNumber ++
          .comma :: memberTokens ofNumber (second :: members) :=
  rfl

/-- The tokens of items with a comma after each of them. -/
def itemsBefore (items : List (Tree ν)) : List Token :=
  items.flatMap fun t ↦ t.tokens ofNumber ++ [.comma]

@[simp] theorem itemsBefore_cons (item : Tree ν) (items : List (Tree ν)) :
    itemsBefore ofNumber (item :: items)
      = item.tokens ofNumber ++ .comma :: itemsBefore ofNumber items := by
  simp [itemsBefore]

/-- The tokens of members with a comma after each of them. -/
def membersBefore (members : List (String × Tree ν)) : List Token :=
  members.flatMap fun m ↦ .string m.1 :: .colon :: m.2.tokens ofNumber ++ [.comma]

@[simp] theorem membersBefore_cons (m : String × Tree ν) (members : List (String × Tree ν)) :
    membersBefore ofNumber (m :: members)
      = .string m.1 :: .colon :: m.2.tokens ofNumber ++
          .comma :: membersBefore ofNumber members := by
  simp [membersBefore]

@[simp] theorem itemTokens_concat (items : List (Tree ν)) (item : Tree ν) :
    itemTokens ofNumber (items ++ [item]) = itemsBefore ofNumber items ++ item.tokens ofNumber := by
  induction items with
  | nil => rfl
  | cons first items ih =>
    rw [List.cons_append, itemTokens.eq_3 _ _ _ (by simp), ih]
    simp

@[simp] theorem memberTokens_concat (members : List (String × Tree ν)) (key : String)
    (value : Tree ν) :
    memberTokens ofNumber (members ++ [(key, value)])
      = membersBefore ofNumber members ++ .string key :: .colon :: value.tokens ofNumber := by
  induction members with
  | nil => rfl
  | cons first members ih =>
    rw [List.cons_append, memberTokens.eq_3 _ _ _ _ (by simp), ih]
    simp

/-! ### Changes of tokens -/

/-- A change of tokens that goes along with the structure of data. -/
structure Along (φ : List Token → List Token) : Prop where
  /-- Nothing comes from nothing. -/
  nil : φ [] = []
  /-- The word for no value stays. -/
  null : φ [.null] = [.null]
  /-- A truth value stays. -/
  bool (b : Bool) : φ [.bool b] = [.bool b]
  /-- A string that is a value stays. -/
  string (s : String) : φ [.string s] = [.string s]
  /-- Two sides of a comma are changed each for itself. -/
  comma (ts us : List Token) : φ (ts ++ .comma :: us) = φ ts ++ .comma :: φ us
  /-- A key stays. -/
  member (key : String) (ts : List Token) :
    φ (.string key :: .colon :: ts) = .string key :: .colon :: φ ts
  /-- So do brackets. -/
  array (ts : List Token) :
    φ (.beginArray :: ts ++ [.endArray]) = .beginArray :: φ ts ++ [.endArray]
  /-- So do braces. -/
  object (ts : List Token) :
    φ (.beginObject :: ts ++ [.endObject]) = .beginObject :: φ ts ++ [.endObject]

namespace Along

variable {μ : Type} {φ : List Token → List Token} (hφ : Along φ)
  {ofNumber : ν → Token} {ofNumber' : μ → Token} {f : ν → Tree μ}

include hφ

theorem itemTokens {items : List (Tree ν)}
    (h : ∀ t ∈ items, φ (t.tokens ofNumber) = (t.graft f .string).tokens ofNumber') :
    φ (Tree.itemTokens ofNumber items)
      = Tree.itemTokens ofNumber' (items.map (Tree.graft f .string)) := by
  induction items with
  | nil => exact hφ.nil
  | cons first items ih =>
    obtain ⟨hfirst, hitems⟩ := List.forall_mem_cons.mp h
    cases items with
    | nil => exact hfirst
    | cons second items =>
      rw [itemTokens_cons_cons, hφ.comma, hfirst, ih hitems]
      rfl

theorem memberTokens {members : List (String × Tree ν)}
    (h : ∀ m ∈ members, φ (m.2.tokens ofNumber) = (m.2.graft f .string).tokens ofNumber') :
    φ (Tree.memberTokens ofNumber members)
      = Tree.memberTokens ofNumber' (members.map fun m ↦ (m.1, m.2.graft f .string)) := by
  induction members with
  | nil => exact hφ.nil
  | cons first members ih =>
    obtain ⟨hfirst, hmembers⟩ := List.forall_mem_cons.mp h
    cases members with
    | nil => exact (hφ.member ..).trans (congrArg (.string first.1 :: .colon :: ·) hfirst)
    | cons second members =>
      rw [memberTokens_cons_cons, hφ.comma, hφ.member, hfirst, ih hmembers]
      rfl

/-- Such a change amounts to a graft, if it does so for numbers. -/
theorem tokens (hnumber : ∀ n, φ [ofNumber n] = (f n).tokens ofNumber') (t : Tree ν) :
    φ (t.tokens ofNumber) = (t.graft f .string).tokens ofNumber' := by
  induction t using Tree.induct with
  | null => exact hφ.null
  | bool b => exact hφ.bool b
  | number n => exact hnumber n
  | string s => exact hφ.string s
  | array items ih =>
    rw [Tree.tokens, hφ.array, hφ.itemTokens ih, graft_array]
    rfl
  | object members ih =>
    rw [Tree.tokens, hφ.object, hφ.memberTokens ih, graft_object]
    rfl

end Along

end Tree

namespace Json

/-- The tokens of data. -/
abbrev tokensOf (json : Json) : List Token := json.tokens .number

namespace Reader

/-! ## The tokens of data are taken -/

theorem foldlM_append {first rest : List Token} {r r' : Reader}
    (h : first.foldlM step r = some r') :
    (first ++ rest).foldlM step r = rest.foldlM step r' := by
  rw [List.foldlM_append, h]
  rfl

theorem exists_tokensOf_eq_cons (json : Json) :
    ∃ first rest, tokensOf json = first :: rest ∧ first ≠ .endArray := by
  cases json with
  | null => exact ⟨_, _, rfl, nofun⟩
  | bool b => exact ⟨_, _, rfl, nofun⟩
  | number n => exact ⟨_, _, rfl, nofun⟩
  | string s => exact ⟨_, _, rfl, nofun⟩
  | array items => exact ⟨_, _, rfl, nofun⟩
  | object members => exact ⟨_, _, rfl, nofun⟩

/-- After an opening bracket all but the end of the list is taken as elsewhere. -/
theorem step_firstItem (stack : List Frame) {t : Token} (h : t ≠ .endArray) :
    step ⟨stack, .firstItem⟩ t = beginValue stack t := by
  cases t with
  | endArray => exact absurd rfl h
  | _ => rfl

theorem foldlM_firstItem (stack : List Frame) (json : Json) (rest : List Token) :
    (tokensOf json ++ rest).foldlM step ⟨stack, .firstItem⟩
      = (tokensOf json ++ rest).foldlM step ⟨stack, .value⟩ := by
  obtain ⟨first, others, heq, hfirst⟩ := exists_tokensOf_eq_cons json
  rw [heq, List.cons_append, List.foldlM_cons, List.foldlM_cons, step_firstItem stack hfirst]
  rfl

/-- The reader takes the tokens of the data, wherever there is room for it. -/
def Takes (json : Json) : Prop :=
  ∀ stack : List Frame, stack.length + json.depth ≤ nestingLimit →
    (tokensOf json).foldlM step ⟨stack, .value⟩ = some ⟨stack, .afterValue json⟩

theorem foldlM_itemsBefore {items : List Json} (hitems : ∀ t ∈ items, Takes t)
    {stack : List Frame} (hdepth : ∀ t ∈ items, stack.length + 1 + t.depth ≤ nestingLimit)
    (acc : List Json) :
    (Tree.itemsBefore .number items).foldlM step ⟨.array acc :: stack, .value⟩
      = some ⟨.array (items.reverse ++ acc) :: stack, .value⟩ := by
  induction items generalizing acc with
  | nil => rfl
  | cons item items ih =>
    obtain ⟨hitem, hitems⟩ := List.forall_mem_cons.mp hitems
    obtain ⟨hroom, hdepth⟩ := List.forall_mem_cons.mp hdepth
    rw [Tree.itemsBefore_cons, foldlM_append (hitem (.array acc :: stack) hroom)]
    change (Tree.itemsBefore .number items).foldlM step ⟨.array (item :: acc) :: stack, .value⟩ = _
    rw [ih hitems hdepth, List.reverse_cons, List.append_assoc, List.singleton_append]

theorem foldlM_membersBefore {members : List (String × Json)} (hmembers : ∀ m ∈ members, Takes m.2)
    {stack : List Frame} (hdepth : ∀ m ∈ members, stack.length + 1 + m.2.depth ≤ nestingLimit)
    (acc : List (String × Json)) :
    (Tree.membersBefore .number members).foldlM step ⟨stack, .key acc⟩
      = some ⟨stack, .key (members.reverse ++ acc)⟩ := by
  induction members generalizing acc with
  | nil => rfl
  | cons m members ih =>
    obtain ⟨hmember, hmembers⟩ := List.forall_mem_cons.mp hmembers
    obtain ⟨hroom, hdepth⟩ := List.forall_mem_cons.mp hdepth
    rw [Tree.membersBefore_cons]
    change (tokensOf m.2 ++ _).foldlM step ⟨.object acc m.1 :: stack, .value⟩ = _
    rw [foldlM_append (hmember (.object acc m.1 :: stack) hroom)]
    change (Tree.membersBefore .number members).foldlM step ⟨stack, .key (m :: acc)⟩ = _
    rw [ih hmembers hdepth, List.reverse_cons, List.append_assoc, List.singleton_append]

theorem takes_array {items : List Json} (hitems : ∀ t ∈ items, Takes t) : Takes (.array items) := by
  intro stack hroom
  rw [Tree.depth] at hroom
  have hdepth : ∀ t ∈ items, stack.length + 1 + t.depth ≤ nestingLimit := by
    intro t ht
    have := Tree.itemsDepth_le_iff.mp (Nat.le_refl _) t ht
    omega
  have hopen : stack.length < nestingLimit := by omega
  have hbegin : step ⟨stack, .value⟩ .beginArray = some ⟨.array [] :: stack, .firstItem⟩ :=
    if_pos hopen
  rw [tokensOf, Tree.tokens, List.cons_append, List.foldlM_cons, hbegin]
  cases items with
  | nil => rfl
  | cons first others =>
    have hfirst : ∃ rest, Tree.itemTokens .number (first :: others) ++ [.endArray]
        = tokensOf first ++ rest := by
      cases others with
      | nil => exact ⟨_, rfl⟩
      | cons second others => exact ⟨_, List.append_assoc ..⟩
    obtain ⟨rest, hrest⟩ := hfirst
    change List.foldlM step ⟨_, .firstItem⟩ _ = _
    rw [hrest, foldlM_firstItem, ← hrest]
    -- all but the last item have a comma after them
    obtain ⟨init, last, hconcat⟩ := (List.eq_nil_or_concat' (first :: others)).resolve_left
      (List.cons_ne_nil first others)
    rw [hconcat, List.forall_mem_append] at hitems hdepth
    have hlast := hitems.2 last List.mem_cons_self (.array init.reverse :: stack)
      (hdepth.2 last List.mem_cons_self)
    rw [hconcat, Tree.itemTokens_concat, List.append_assoc,
      foldlM_append (foldlM_itemsBefore hitems.1 hdepth.1 []), List.append_nil, foldlM_append hlast]
    change some (Reader.mk stack (.afterValue (.array (last :: init.reverse).reverse))) = _
    rw [List.reverse_cons, List.reverse_reverse]

theorem takes_object {members : List (String × Json)} (hmembers : ∀ m ∈ members, Takes m.2) :
    Takes (.object members) := by
  intro stack hroom
  rw [Tree.depth] at hroom
  have hdepth : ∀ m ∈ members, stack.length + 1 + m.2.depth ≤ nestingLimit := by
    intro m hm
    have := Tree.membersDepth_le_iff.mp (Nat.le_refl _) m hm
    omega
  have hopen : stack.length < nestingLimit := by omega
  have hbegin : step ⟨stack, .value⟩ .beginObject = some ⟨stack, .firstKey⟩ := if_pos hopen
  rw [tokensOf, Tree.tokens, List.cons_append, List.foldlM_cons, hbegin]
  obtain rfl | ⟨init, ⟨key, value⟩, rfl⟩ := List.eq_nil_or_concat' members
  · rfl
  rw [List.forall_mem_append] at hmembers hdepth
  -- the first key is taken as a later one is
  have hfirst :
      (Tree.memberTokens .number (init ++ [(key, value)]) ++ [Token.endObject]).foldlM step
        ⟨stack, .firstKey⟩
      = (Tree.memberTokens .number (init ++ [(key, value)]) ++ [Token.endObject]).foldlM step
        ⟨stack, .key []⟩ := by
    rw [Tree.memberTokens_concat]
    cases init with
    | nil => rfl
    | cons m init => rfl
  change List.foldlM step ⟨_, .firstKey⟩ _ = _
  rw [hfirst, Tree.memberTokens_concat, List.append_assoc,
    foldlM_append (foldlM_membersBefore hmembers.1 hdepth.1 []), List.append_nil]
  change (tokensOf value ++ [Token.endObject]).foldlM step
    ⟨.object init.reverse key :: stack, .value⟩ = _
  have hlast := hmembers.2 _ List.mem_cons_self (.object init.reverse key :: stack)
    (hdepth.2 _ List.mem_cons_self)
  rw [foldlM_append hlast]
  change some (Reader.mk stack (.afterValue (.object ((key, value) :: init.reverse).reverse))) = _
  rw [List.reverse_cons, List.reverse_reverse]

theorem takes (json : Json) : Takes json := by
  induction json using Tree.induct with
  | null => exact fun _ _ ↦ rfl
  | bool b => exact fun _ _ ↦ rfl
  | number n => exact fun _ _ ↦ rfl
  | string s => exact fun _ _ ↦ rfl
  | array items ih => exact takes_array ih
  | object members ih => exact takes_object ih

/-! ## Nothing else is taken -/

end Reader

namespace Frame

/-- The tokens that opened a list or object and filled it so far. -/
def taken : Frame → List Token
  | array items => .beginArray :: Tree.itemsBefore .number items.reverse
  | object members key =>
    .beginObject :: Tree.membersBefore .number members.reverse ++ [.string key, .colon]

/-- The depth of a list or object as far as it is filled. -/
def depth : Frame → Nat
  | array items => Tree.itemsDepth items + 1
  | object members _ => Tree.membersDepth members + 1

end Frame

namespace Expectation

/-- The tokens taken since the innermost list or object was entered, as far as its frame does not
hold them. -/
def taken : Expectation → List Token
  | value => []
  | firstItem => []
  | firstKey => [.beginObject]
  | key members => .beginObject :: Tree.membersBefore .number members.reverse
  | colon members k => .beginObject :: Tree.membersBefore .number members.reverse ++ [.string k]
  | afterValue json => tokensOf json

/-- The depth of what is being read. -/
def depth : Expectation → Nat
  | value => 0
  | firstItem => 0
  | firstKey => 1
  | key members => Tree.membersDepth members + 1
  | colon members _ => Tree.membersDepth members + 1
  | afterValue json => json.depth

end Expectation

namespace Reader

/-- Every list and object that is open is within the limit, as far as it is filled. -/
def HasRoom : List Frame → Prop
  | [] => True
  | frame :: stack => stack.length + frame.depth ≤ nestingLimit ∧ HasRoom stack

/-- The tokens taken so far. -/
def taken (r : Reader) : List Token := r.stack.reverse.flatMap Frame.taken ++ r.expect.taken

/-- What holds of every state of the reader that is reached. -/
structure IsSound (r : Reader) : Prop where
  /-- The open lists and objects are within the limit. -/
  hasRoom : HasRoom r.stack
  /-- So is what is being read. -/
  depth_le : r.stack.length + r.expect.depth ≤ nestingLimit
  /-- A first item is expected only in a list without items. -/
  firstItem : r.expect = .firstItem → ∃ stack, r.stack = .array [] :: stack

@[simp] theorem itemsDepth_reverse (items : List Json) :
    Tree.itemsDepth items.reverse = Tree.itemsDepth items := by
  have hle : ∀ l l' : List Json, (∀ t ∈ l, t ∈ l') → Tree.itemsDepth l ≤ Tree.itemsDepth l' :=
    fun l l' h ↦ Tree.itemsDepth_le_iff.mpr fun t ht ↦
      Tree.itemsDepth_le_iff.mp (Nat.le_refl _) t (h t ht)
  exact Nat.le_antisymm (hle _ _ fun t ↦ List.mem_reverse.mp) (hle _ _ fun t ↦ List.mem_reverse.mpr)

@[simp] theorem membersDepth_reverse (members : List (String × Json)) :
    Tree.membersDepth members.reverse = Tree.membersDepth members := by
  have hle : ∀ l l' : List (String × Json), (∀ m ∈ l, m ∈ l') →
      Tree.membersDepth l ≤ Tree.membersDepth l' :=
    fun l l' h ↦ Tree.membersDepth_le_iff.mpr fun m hm ↦
      Tree.membersDepth_le_iff.mp (Nat.le_refl _) m (h m hm)
  exact Nat.le_antisymm (hle _ _ fun m ↦ List.mem_reverse.mp) (hle _ _ fun m ↦ List.mem_reverse.mpr)

variable {stack : List Frame} {r' : Reader} {t : Token}

theorem isSound_beginValue (hroom : HasRoom stack) (hlimit : stack.length ≤ nestingLimit)
    (h : beginValue stack t = some r') :
    r'.IsSound ∧ r'.taken = stack.reverse.flatMap Frame.taken ++ [t] := by
  cases t with
  | null => cases h; exact ⟨⟨hroom, hlimit, nofun⟩, rfl⟩
  | bool b => cases h; exact ⟨⟨hroom, hlimit, nofun⟩, rfl⟩
  | number n => cases h; exact ⟨⟨hroom, hlimit, nofun⟩, rfl⟩
  | string s => cases h; exact ⟨⟨hroom, hlimit, nofun⟩, rfl⟩
  | beginArray =>
    obtain ⟨hopen, heq⟩ := Option.ite_none_right_eq_some.mp h
    cases heq
    refine ⟨⟨⟨hopen, hroom⟩, hopen, fun _ ↦ ⟨_, rfl⟩⟩, ?_⟩
    rw [taken, List.reverse_cons, List.flatMap_append]
    exact List.append_nil _
  | beginObject =>
    obtain ⟨hopen, heq⟩ := Option.ite_none_right_eq_some.mp h
    cases heq
    exact ⟨⟨hroom, hopen, nofun⟩, rfl⟩
  | endArray => cases h
  | endObject => cases h
  | comma => cases h
  | colon => cases h
  | word n => cases h

theorem isSound_afterValue {value : Json} (hroom : HasRoom stack)
    (hlimit : stack.length + value.depth ≤ nestingLimit)
    (h : afterValue value stack t = some r') :
    r'.IsSound ∧ r'.taken = stack.reverse.flatMap Frame.taken ++ tokensOf value ++ [t] := by
  cases stack with
  | nil => cases h
  | cons frame stack =>
    obtain ⟨hframe, hroom⟩ := hroom
    rw [List.length_cons] at hlimit
    rw [List.reverse_cons, List.flatMap_append, List.flatMap_singleton]
    cases frame with
    | array items =>
      have hdepth : stack.length + (Tree.itemsDepth (value :: items) + 1) ≤ nestingLimit := by
        rw [Frame.depth] at hframe
        rw [Tree.itemsDepth]
        omega
      cases t with
      | comma =>
        cases h
        refine ⟨⟨⟨hdepth, hroom⟩, ?_, by rintro ⟨⟩⟩, ?_⟩
        · change stack.length + 1 ≤ nestingLimit
          omega
        · simp [taken, Frame.taken, Expectation.taken, Tree.itemsBefore, List.flatMap_append]
      | endArray =>
        cases h
        refine ⟨⟨hroom, ?_, by rintro ⟨⟩⟩, ?_⟩
        · -- the frame holds the items in reverse, and the list does not
          rwa [← itemsDepth_reverse] at hdepth
        · simp [taken, Frame.taken, Expectation.taken, tokensOf, Tree.tokens,
            Tree.itemTokens_concat]
      | _ => cases h
    | object members key =>
      have hdepth : stack.length + (Tree.membersDepth ((key, value) :: members) + 1)
          ≤ nestingLimit := by
        rw [Frame.depth] at hframe
        rw [Tree.membersDepth]
        omega
      cases t with
      | comma =>
        cases h
        refine ⟨⟨hroom, hdepth, by rintro ⟨⟩⟩, ?_⟩
        simp [taken, Frame.taken, Expectation.taken, Tree.membersBefore, List.flatMap_append]
      | endObject =>
        cases h
        refine ⟨⟨hroom, ?_, by rintro ⟨⟩⟩, ?_⟩
        · rwa [← membersDepth_reverse] at hdepth
        · simp [taken, Frame.taken, Expectation.taken, tokensOf, Tree.tokens,
            Tree.memberTokens_concat]
      | _ => cases h

/-- Each step adds the token that it takes. -/
theorem isSound_step {r : Reader} (hr : r.IsSound) (h : step r t = some r') :
    r'.IsSound ∧ r'.taken = r.taken ++ [t] := by
  obtain ⟨stack, expect⟩ := r
  obtain ⟨hroom, hlimit, hfirst⟩ := hr
  cases expect with
  | value =>
    obtain ⟨hsound, htaken⟩ := isSound_beginValue hroom hlimit h
    exact ⟨hsound, by rw [htaken, taken]; simp [Expectation.taken]⟩
  | firstItem =>
    by_cases hend : t = .endArray
    · subst hend
      cases h
      -- the bracket has put a frame without items onto the stack, which goes again
      obtain ⟨stack, rfl⟩ := hfirst rfl
      refine ⟨⟨hroom.2, hroom.1, nofun⟩, ?_⟩
      simp [taken, Frame.taken, Expectation.taken, tokensOf, Tree.tokens, Tree.itemTokens,
        Tree.itemsBefore]
    · rw [step_firstItem stack hend] at h
      obtain ⟨hsound, htaken⟩ := isSound_beginValue hroom hlimit h
      exact ⟨hsound, by rw [htaken, taken]; simp [Expectation.taken]⟩
  | firstKey =>
    cases t with
    | endObject =>
      cases h
      refine ⟨⟨hroom, hlimit, nofun⟩, ?_⟩
      simp [taken, Expectation.taken, tokensOf, Tree.tokens, Tree.memberTokens]
    | string k =>
      cases h
      refine ⟨⟨hroom, hlimit, nofun⟩, ?_⟩
      simp [taken, Expectation.taken, Tree.membersBefore]
    | _ => cases h
  | key members =>
    cases t with
    | string k =>
      cases h
      refine ⟨⟨hroom, hlimit, nofun⟩, ?_⟩
      simp [taken, Expectation.taken]
    | _ => cases h
  | colon members k =>
    cases t with
    | colon =>
      cases h
      -- the object comes onto the stack, so what was the depth of a value is room for its members
      refine ⟨⟨⟨hlimit, hroom⟩, ?_, nofun⟩, ?_⟩
      · have : stack.length + (Tree.membersDepth members + 1) ≤ nestingLimit := hlimit
        change stack.length + 1 ≤ nestingLimit
        omega
      · simp [taken, Frame.taken, Expectation.taken]
    | _ => cases h
  | afterValue value => exact isSound_afterValue hroom hlimit h

/-- All tokens are in what the reader has taken in the end. -/
theorem isSound_foldlM {tokens : List Token} {r : Reader} (hr : r.IsSound)
    (h : tokens.foldlM step r = some r') : r'.IsSound ∧ r'.taken = r.taken ++ tokens := by
  induction tokens generalizing r with
  | nil =>
    cases h
    exact ⟨hr, (List.append_nil _).symm⟩
  | cons t tokens ih =>
    rw [List.foldlM_cons] at h
    obtain ⟨next, hnext, h⟩ := Option.bind_eq_some_iff.mp h
    obtain ⟨hsound, htaken⟩ := isSound_step hr hnext
    obtain ⟨hsound', htaken'⟩ := ih hsound h
    exact ⟨hsound', by rw [htaken', htaken, List.append_assoc, List.singleton_append]⟩

end Reader

/-- **A sequence of tokens is read exactly if it is that of data within the limit**, and as that
data. -/
theorem ofTokens_eq_some_iff {tokens : List Token} {json : Json} :
    ofTokens tokens = some json ↔ tokens = tokensOf json ∧ json.depth ≤ nestingLimit := by
  rw [ofTokens, Option.bind_eq_some_iff]
  constructor
  · rintro ⟨⟨stack, expect⟩, hfold, hfinish⟩
    have hstart : Reader.start.IsSound := ⟨trivial, Nat.zero_le _, nofun⟩
    obtain ⟨hsound, htaken⟩ := Reader.isSound_foldlM hstart hfold
    unfold Reader.finish at hfinish
    split at hfinish
    · next value hstack hexpect =>
      dsimp only at hstack hexpect
      subst hstack hexpect
      cases hfinish
      have hdepth := hsound.depth_le
      rw [List.length_nil, Nat.zero_add] at hdepth
      exact ⟨htaken.symm, hdepth⟩
    · cases hfinish
  · rintro ⟨rfl, hdepth⟩
    exact ⟨_, Reader.takes json [] (by rwa [List.length_nil, Nat.zero_add]), rfl⟩

end Json

end RunQuery

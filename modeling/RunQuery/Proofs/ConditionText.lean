import Mathlib.Data.Bool.AllAny
import Mathlib.Data.List.DropRight
import RunQuery.ConditionText
import RunQuery.Proofs.Key

/-!
# The grammar of conditions

A condition is cut at the first place of its text where an operator begins, by the longest operator
there. What stands before has to name a key, and what follows is the literal, both without the white
space around them. Nothing else can be wrong with a text.

## Longest operators

Several operators may begin at one place, such as `<` and `<=`. Of those that *lead* a text there is
only one: two of them would be equally long beginnings of one text. So it is enough to know that the
reader finds an operator that leads, and the order in which it tries them does not matter.

## Keys before an operator

A key can be written before an operator as its text is, if no operator begins within the text, and
none that takes in the end of it. The only sign that begins with a mark of its own is `!=`, which is
why a text that ends in `!` must not stand before an `=`, though it may have that mark anywhere
else. Nothing weaker will do: a text that is cut earlier, or loses white space at its end, is read
with another key or with none. That is seen from lengths, since the section at the front of the text
has neither signs nor white space and stays as it is.
-/

namespace RunQuery

namespace Operator

/-! ## Operators at the beginning of a text -/

/-- Does the text begin with the sign of the operator? -/
def Begins (op : Operator) (text : List Char) : Prop := op.sign.toList <+: text

/-- Does the text begin with the operator, and with no longer one? -/
structure Leads (op : Operator) (text : List Char) : Prop where
  /-- It begins with the operator. -/
  begins : op.Begins text
  /-- No operator with which it begins is longer. -/
  longest : ∀ other : Operator, other.Begins text → other.sign.length ≤ op.sign.length

instance (op : Operator) (text : List Char) : Decidable (op.Begins text) :=
  inferInstanceAs (Decidable (op.sign.toList <+: text))

theorem mem_all (op : Operator) : op ∈ all := by
  cases op <;> decide

instance (op : Operator) (text : List Char) : Decidable (op.Leads text) :=
  decidable_of_iff
    (op.Begins text ∧ ∀ other ∈ all, other.Begins text → other.sign.length ≤ op.sign.length)
    ⟨fun ⟨hbegins, hall⟩ ↦ ⟨hbegins, fun other ↦ hall other other.mem_all⟩,
      fun ⟨hbegins, hlongest⟩ ↦ ⟨hbegins, fun other _ ↦ hlongest other⟩⟩

theorem not_begins_nil (op : Operator) : ¬op.Begins [] := by
  intro h
  have hnil : op.sign.toList = [] := List.prefix_nil.mp h
  cases op <;> exact absurd hnil (by decide)

theorem begins_cons_iff {op : Operator} {c : Char} {rest : List Char} :
    op.Begins (c :: rest) ↔
      match op with
      | .eq => c = '='
      | .lt => c = '<'
      | .gt => c = '>'
      | .ne => c = '!' ∧ rest.head? = some '='
      | .le => c = '<' ∧ rest.head? = some '='
      | .ge => c = '>' ∧ rest.head? = some '='
      | .pattern => c = '=' ∧ rest.head? = some '~' := by
  have hone (d : Char) : [d] <+: c :: rest ↔ c = d := by
    rw [List.cons_prefix_cons, and_iff_left List.nil_prefix, eq_comm]
  have htwo (d e : Char) : [d, e] <+: c :: rest ↔ c = d ∧ rest.head? = some e := by
    rw [List.cons_prefix_cons, eq_comm, List.singleton_prefix_iff_head?_eq_some]
  cases op with
  | eq => exact hone '='
  | lt => exact hone '<'
  | gt => exact hone '>'
  | ne => exact htwo '!' '='
  | le => exact htwo '<' '='
  | ge => exact htwo '>' '='
  | pattern => exact htwo '=' '~'

theorem exists_begins_cons_iff {c : Char} {rest : List Char} :
    (∃ op : Operator, op.Begins (c :: rest)) ↔
      (c = '=' ∨ c = '<' ∨ c = '>') ∨ (c = '!' ∧ rest.head? = some '=') := by
  constructor
  · rintro ⟨op, hop⟩
    rw [begins_cons_iff] at hop
    cases op with
    | eq => exact .inl (.inl hop)
    | lt => exact .inl (.inr (.inl hop))
    | gt => exact .inl (.inr (.inr hop))
    | ne => exact .inr hop
    | le => exact .inl (.inr (.inl hop.1))
    | ge => exact .inl (.inr (.inr hop.1))
    | pattern => exact .inl (.inl hop.1)
  · rintro ((rfl | rfl | rfl) | ⟨rfl, hnext⟩)
    · exact ⟨.eq, begins_cons_iff.mpr rfl⟩
    · exact ⟨.lt, begins_cons_iff.mpr rfl⟩
    · exact ⟨.gt, begins_cons_iff.mpr rfl⟩
    · exact ⟨.ne, begins_cons_iff.mpr ⟨rfl, hnext⟩⟩

theorem eq_of_toList_sign_eq {op other : Operator} (h : op.sign.toList = other.sign.toList) :
    op = other := by
  cases op <;> cases other <;> first | rfl | exact absurd h (by decide)

theorem length_sign_le (op : Operator) : op.sign.length ≤ 2 := by
  cases op <;> decide

theorem leads_of_length_sign {op : Operator} {text : List Char} (h : op.sign.length = 2)
    (hbegins : op.Begins text) : op.Leads text :=
  ⟨hbegins, fun other _ ↦ h ▸ other.length_sign_le⟩

/-- **Only one operator leads a text.** -/
theorem Leads.eq {op other : Operator} {text : List Char} (h : op.Leads text)
    (h' : other.Leads text) : op = other := by
  have hlength : op.sign.toList.length = other.sign.toList.length :=
    Nat.le_antisymm (h'.longest op h.begins) (h.longest other h'.begins)
  have hsigns : op.sign.toList <+: other.sign.toList :=
    List.prefix_of_prefix_length_le h.begins h'.begins hlength.le
  exact eq_of_toList_sign_eq (hsigns.eq_of_length hlength)

end Operator

namespace Condition

/-! ## The first operator -/

theorem operatorAt?_cases (text : List Char) :
    (∃ op after, operatorAt? text = some (op, after) ∧ Operator.Leads op text ∧
      text = op.sign.toList ++ after) ∨
    (operatorAt? text = none ∧ ∀ op : Operator, ¬op.Begins text) := by
  fun_cases operatorAt? text with
  | case1 rest =>
    exact .inl ⟨.pattern, rest, rfl, Operator.leads_of_length_sign rfl ⟨rest, rfl⟩, rfl⟩
  | case2 rest => exact .inl ⟨.ne, rest, rfl, Operator.leads_of_length_sign rfl ⟨rest, rfl⟩, rfl⟩
  | case3 rest => exact .inl ⟨.le, rest, rfl, Operator.leads_of_length_sign rfl ⟨rest, rfl⟩, rfl⟩
  | case4 rest => exact .inl ⟨.ge, rest, rfl, Operator.leads_of_length_sign rfl ⟨rest, rfl⟩, rfl⟩
  -- a longer operator would have been found before
  | case5 rest hpattern =>
    refine .inl ⟨.eq, rest, rfl, ⟨⟨rest, rfl⟩, fun other hother ↦ ?_⟩, rfl⟩
    rw [Operator.begins_cons_iff] at hother
    cases other <;> simp_all [List.head?_eq_some_iff]
  | case6 rest hle =>
    refine .inl ⟨.lt, rest, rfl, ⟨⟨rest, rfl⟩, fun other hother ↦ ?_⟩, rfl⟩
    rw [Operator.begins_cons_iff] at hother
    cases other <;> simp_all [List.head?_eq_some_iff]
  | case7 rest hge =>
    refine .inl ⟨.gt, rest, rfl, ⟨⟨rest, rfl⟩, fun other hother ↦ ?_⟩, rfl⟩
    rw [Operator.begins_cons_iff] at hother
    cases other <;> simp_all [List.head?_eq_some_iff]
  | case8 text =>
    refine .inr ⟨rfl, fun op hop ↦ ?_⟩
    cases text with
    | nil => exact op.not_begins_nil hop
    | cons c rest =>
      rw [Operator.begins_cons_iff] at hop
      cases op <;> simp_all [List.head?_eq_some_iff]

theorem exists_leads {text : List Char} (h : ∃ op : Operator, op.Begins text) :
    ∃ op : Operator, op.Leads text := by
  rcases operatorAt?_cases text with ⟨op, -, -, hleads, -⟩ | ⟨-, hnone⟩
  · exact ⟨op, hleads⟩
  · obtain ⟨op, hop⟩ := h
    exact absurd hop (hnone op)

/-- Is this the first place of a text where an operator begins? -/
structure IsFirstPlace (text : List Char) (place : Nat) : Prop where
  /-- An operator begins here. -/
  operator : ∃ op : Operator, op.Begins (text.drop place)
  /-- None begins before. -/
  first : ∀ n < place, ∀ op : Operator, ¬op.Begins (text.drop n)

theorem isFirstPlace_zero_iff {text : List Char} :
    IsFirstPlace text 0 ↔ ∃ op : Operator, op.Begins text :=
  ⟨fun h ↦ h.operator, fun h ↦ ⟨h, nofun⟩⟩

theorem isFirstPlace_succ_iff {c : Char} {rest : List Char} {n : Nat} :
    IsFirstPlace (c :: rest) (n + 1) ↔
      (∀ op : Operator, ¬op.Begins (c :: rest)) ∧ IsFirstPlace rest n := by
  constructor
  · intro h
    exact ⟨h.first 0 (Nat.succ_pos n), h.operator, fun m hm ↦ h.first (m + 1) (by omega)⟩
  · rintro ⟨hhere, hrest⟩
    refine ⟨hrest.operator, fun m hm ↦ ?_⟩
    cases m with
    | zero => exact hhere
    | succ m => exact hrest.first m (by omega)

/-- **A text is cut at the first place where an operator begins**, by the one that leads there. -/
theorem cut?_eq_some_iff {text before after : List Char} {op : Operator} :
    cut? text = some (before, op, after) ↔
      ∃ place, IsFirstPlace text place ∧ op.Leads (text.drop place) ∧
        before = text.take place ∧ after = text.drop (place + op.sign.length) := by
  induction text generalizing before with
  | nil =>
    refine iff_of_false nofun ?_
    rintro ⟨place, hplace, -⟩
    obtain ⟨op, hop⟩ := hplace.operator
    exact op.not_begins_nil (List.drop_nil ▸ hop)
  | cons c rest ih =>
    rw [cut?]
    rcases operatorAt?_cases (c :: rest) with ⟨found, afterFound, hfound, hleads, htext⟩ | hnone
    · have hafter : (c :: rest).drop (0 + found.sign.length) = afterFound := by
        rw [htext, Nat.zero_add, ← String.length_toList, List.drop_left]
      simp only [hfound, Option.some.injEq, Prod.mk.injEq]
      constructor
      · rintro ⟨rfl, rfl, rfl⟩
        exact ⟨0, isFirstPlace_zero_iff.mpr ⟨_, hleads.begins⟩, hleads, rfl, hafter.symm⟩
      · rintro ⟨place, hplace, hop, rfl, rfl⟩
        cases place with
        | zero =>
          obtain rfl := hleads.eq hop
          exact ⟨rfl, rfl, hafter.symm⟩
        | succ n => exact absurd hleads.begins ((isFirstPlace_succ_iff.mp hplace).1 found)
    · -- the text is cut further on, and everything before that moves by one character
      have hdrop (n : Nat) : (c :: rest).drop (n + 1 + op.sign.length)
          = rest.drop (n + op.sign.length) := by
        rw [Nat.add_right_comm, List.drop_succ_cons]
      simp only [hnone.1, Option.map_eq_some_iff, Prod.exists, Prod.mk.injEq]
      constructor
      · rintro ⟨start, _, _, hcut, rfl, rfl, rfl⟩
        obtain ⟨n, hn, hop, hstart, hafter⟩ := ih.mp hcut
        exact ⟨n + 1, isFirstPlace_succ_iff.mpr ⟨hnone.2, hn⟩, hop, congrArg (c :: ·) hstart,
          hafter.trans (hdrop n).symm⟩
      · rintro ⟨place, hplace, hop, hbefore, hafter⟩
        cases place with
        | zero => exact absurd hop.begins (hnone.2 op)
        | succ n =>
          have hn := (isFirstPlace_succ_iff.mp hplace).2
          have hcut := ih.mpr ⟨n, hn, hop, rfl, hafter.trans (hdrop n)⟩
          exact ⟨_, _, _, hcut, hbefore.symm, rfl, rfl⟩

/-! ## Texts that are conditions -/

def textBefore (text : String) (place : Nat) : String := String.ofList (text.toList.take place)

def textFrom (text : String) (place : Nat) : String := String.ofList (text.toList.drop place)

theorem parse_eq_ok_iff_of_cut {text : String} {c : Condition} :
    parse text = .ok c ↔
      ∃ before after, cut? text.toList = some (before, c.op, after) ∧
        Key.parse? (Text.trim (String.ofList before)) = some c.key ∧
        c.literal = literalOf c.op (Text.trim (String.ofList after)) := by
  simp only [Text.trim, String.toList_ofList]
  cases hcut : cut? text.toList with
  | none => simp [parse, hcut]
  | some found =>
    obtain ⟨before, op, after⟩ := found
    cases hkey : Key.parse? (String.ofList (Text.trimChars before)) with
    | none =>
      simp only [parse, hcut, hkey, Option.some.injEq, Prod.mk.injEq]
      refine iff_of_false nofun ?_
      rintro ⟨_, _, ⟨rfl, rfl, rfl⟩, hparse, -⟩
      rw [hkey] at hparse
      cases hparse
    | some key =>
      simp only [parse, hcut, hkey, Except.ok.injEq, Option.some.injEq, Prod.mk.injEq]
      constructor
      · rintro rfl
        exact ⟨before, after, ⟨rfl, rfl, rfl⟩, hkey, rfl⟩
      · rintro ⟨_, _, ⟨rfl, hop, rfl⟩, hparse, hliteral⟩
        rw [hkey] at hparse
        cases hparse
        rw [hop, ← hliteral]

theorem parse_eq_ok_iff {text : String} {c : Condition} :
    parse text = .ok c ↔
      ∃ place, IsFirstPlace text.toList place ∧ c.op.Leads (text.toList.drop place) ∧
        Key.parse? (Text.trim (textBefore text place)) = some c.key ∧
        c.literal = literalOf c.op (Text.trim (textFrom text (place + c.op.sign.length))) := by
  rw [parse_eq_ok_iff_of_cut]
  constructor
  · rintro ⟨_, _, hcut, hkey, hliteral⟩
    obtain ⟨place, hplace, hop, rfl, rfl⟩ := cut?_eq_some_iff.mp hcut
    exact ⟨place, hplace, hop, hkey, hliteral⟩
  · rintro ⟨place, hplace, hop, hkey, hliteral⟩
    exact ⟨_, _, cut?_eq_some_iff.mpr ⟨place, hplace, hop, rfl, rfl⟩, hkey, hliteral⟩

theorem exists_parse_eq_ok_iff {text : String} :
    (∃ c, parse text = .ok c) ↔
      ∃ place, IsFirstPlace text.toList place ∧
        ∃ key, Key.parse? (Text.trim (textBefore text place)) = some key := by
  constructor
  · rintro ⟨c, hparse⟩
    obtain ⟨place, hplace, -, hkey, -⟩ := parse_eq_ok_iff.mp hparse
    exact ⟨place, hplace, c.key, hkey⟩
  · rintro ⟨place, hplace, key, hkey⟩
    obtain ⟨op, hop⟩ := exists_leads hplace.operator
    let literal := literalOf op (Text.trim (textFrom text (place + op.sign.length)))
    exact ⟨⟨key, op, literal⟩, parse_eq_ok_iff.mpr ⟨place, hplace, hop, hkey, rfl⟩⟩

/-! ## Conditions put together -/

/-- Can the text of a key stand before an operator as it is? -/
structure IsPlain (text : String) : Prop where
  /-- There is no white space at its ends. -/
  trimmed : Text.trim text = text
  /-- No operator of one character is in it. -/
  noSign : ∀ c ∈ text.toList, c ≠ '=' ∧ c ≠ '<' ∧ c ≠ '>'
  /-- It does not end in the mark that makes an `=` another operator. -/
  noMark : text.toList.getLast? ≠ some '!'

instance (text : String) : Decidable (IsPlain text) :=
  decidable_of_iff
    (Text.trim text = text ∧ (text.toList.all fun c ↦ c ≠ '=' ∧ c ≠ '<' ∧ c ≠ '>') = true ∧
      text.toList.getLast? ≠ some '!')
    ⟨fun ⟨htrim, hsign, hmark⟩ ↦ ⟨htrim, List.all_iff_forall_prop.mp hsign, hmark⟩,
      fun ⟨htrim, hsign, hmark⟩ ↦ ⟨htrim, List.all_iff_forall_prop.mpr hsign, hmark⟩⟩

/-- Is a text kept apart from an operator that is written after it? -/
structure StandsBefore (op : Operator) (text : String) : Prop where
  /-- There is no white space at its ends. -/
  trimmed : Text.trim text = text
  /-- No operator of one character is in it. -/
  noSign : ∀ c ∈ text.toList, c ≠ '=' ∧ c ≠ '<' ∧ c ≠ '>'
  /-- It does not end in the mark if the operator begins with the sign that this makes another
  one. -/
  noMark : text.toList.getLast? = some '!' → op.sign.toList.head? ≠ some '='

theorem IsPlain.standsBefore {text : String} (h : IsPlain text) (op : Operator) :
    StandsBefore op text :=
  ⟨h.trimmed, h.noSign, fun hmark ↦ absurd hmark h.noMark⟩

/-- No operator begins within the first part of a text if there are no signs in it, and its end
makes no operator with what follows. -/
theorem forall_not_begins_append_iff {chars after : List Char} :
    (∀ n < chars.length, ∀ op : Operator, ¬op.Begins ((chars ++ after).drop n)) ↔
      (∀ c ∈ chars, c ≠ '=' ∧ c ≠ '<' ∧ c ≠ '>') ∧
        (chars.getLast? = some '!' → after.head? ≠ some '=') := by
  induction chars with
  | nil => exact iff_of_true nofun ⟨nofun, nofun⟩
  | cons c rest ih =>
    rw [List.length_cons, Nat.forall_lt_succ_left]
    simp only [List.cons_append, List.drop_zero, List.drop_succ_cons]
    rw [ih, ← not_exists, Operator.exists_begins_cons_iff, not_or, not_or, not_or,
      List.forall_mem_cons]
    cases rest with
    | nil => simp [and_assoc]
    | cons d rest =>
      rw [List.getLast?_cons_cons, List.cons_append, List.head?_cons, Option.some_inj]
      constructor
      · rintro ⟨⟨hsigns, -⟩, hrest, hmark⟩
        exact ⟨⟨hsigns, hrest⟩, hmark⟩
      · rintro ⟨⟨hsigns, hrest⟩, hmark⟩
        refine ⟨⟨hsigns, ?_⟩, hrest, hmark⟩
        rintro ⟨-, rfl⟩
        exact (hrest '=' List.mem_cons_self).1 rfl

theorem head?_toList_sign_append (op : Operator) (value : String) :
    (op.sign ++ value).toList.head? = op.sign.toList.head? := by
  rw [String.toList_append]
  cases op <;> rfl

theorem StandsBefore.isFirstPlace {op : Operator} {text value : String}
    (h : StandsBefore op text) (hop : op.Leads (op.sign ++ value).toList) :
    IsFirstPlace (text.toList ++ (op.sign ++ value).toList) text.toList.length := by
  refine ⟨⟨op, ?_⟩, forall_not_begins_append_iff.mpr ⟨h.noSign, ?_⟩⟩
  · rw [List.drop_left]
    exact hop.begins
  · rw [head?_toList_sign_append]
    exact h.noMark

theorem parse_append_of_standsBefore {op : Operator} {text value : String}
    (h : StandsBefore op text) (hop : op.Leads (op.sign ++ value).toList) :
    parse (text ++ op.sign ++ value) =
      match Key.parse? text with
      | none => .error (.invalidKey (text ++ op.sign ++ value))
      | some key => .ok ⟨key, op, literalOf op (Text.trim value)⟩ := by
  have hchars : (text ++ op.sign ++ value).toList = text.toList ++ (op.sign ++ value).toList := by
    rw [String.append_assoc, String.toList_append]
  have hcut : cut? (text ++ op.sign ++ value).toList = some (text.toList, op, value.toList) := by
    rw [hchars]
    refine cut?_eq_some_iff.mpr ⟨text.toList.length, h.isFirstPlace hop, ?_, ?_, ?_⟩
    · rwa [List.drop_left]
    · rw [List.take_left]
    · rw [List.drop_append, String.toList_append, ← String.length_toList,
        Nat.add_sub_cancel_left, List.drop_left]
      simp
  have htrim : String.ofList (Text.trimChars text.toList) = text := h.trimmed
  rw [parse, hcut]
  simp only [htrim]
  rfl

theorem parse_append {key : Key} (hkey : key.IsAddressable) {op : Operator} {value : String}
    (h : StandsBefore op key.text) (hop : op.Leads (op.sign ++ value).toList) :
    parse (key.text ++ op.sign ++ value) = .ok ⟨key, op, literalOf op (Text.trim value)⟩ := by
  rw [parse_append_of_standsBefore h hop, Key.parse?_text_eq_some_iff.mpr hkey]

theorem rdropWhile_append {front : List Char}
    (hfront : ∀ c ∈ front, Unicode.isWhiteSpace c = false) (rest : List Char) :
    (front ++ rest).rdropWhile Unicode.isWhiteSpace
      = front ++ rest.rdropWhile Unicode.isWhiteSpace := by
  induction rest using List.reverseRecOn with
  | nil =>
    rw [List.rdropWhile_nil, List.append_nil, List.rdropWhile_eq_self_iff]
    intro hne
    simp [hfront _ (List.getLast_mem hne)]
  | append_singleton rest c ih =>
    rw [← List.append_assoc, List.rdropWhile_concat, List.rdropWhile_concat, ih]
    split_ifs
    · rfl
    · rw [List.append_assoc]

theorem trim_append {front : String} (hne : front ≠ "")
    (hfront : ∀ c ∈ front.toList, Unicode.isWhiteSpace c = false) (rest : String) :
    Text.trim (front ++ rest)
      = front ++ String.ofList (rest.toList.rdropWhile Unicode.isWhiteSpace) := by
  have hfirst : (front.toList ++ rest.toList).dropWhile Unicode.isWhiteSpace
      = front.toList ++ rest.toList := by
    obtain ⟨c, chars, hchars⟩ := List.exists_cons_of_ne_nil (mt String.toList_eq_nil_iff.mp hne)
    rw [hchars] at hfront ⊢
    exact List.dropWhile_cons_of_neg (by simp [hfront c List.mem_cons_self])
  rw [Text.trim, Text.trimChars, String.toList_append, hfirst]
  change String.ofList (List.rdropWhile _ _) = _
  rw [rdropWhile_append hfront, String.ofList_append, String.ofList_toList]

theorem exists_text_eq_append {area : Section} (h : area.isKnown = true) :
    ∃ front : String, front ≠ "" ∧ (∀ name, Key.text ⟨area, name⟩ = front ++ name) ∧
      (∀ c ∈ front.toList, Unicode.isWhiteSpace c = false) ∧
      ∀ c ∈ front.toList, (c ≠ '=' ∧ c ≠ '<' ∧ c ≠ '>') ∧ c ≠ '!' := by
  refine ⟨area.name ++ ":", ?_, fun name ↦ rfl, ?_⟩
  · simp
  · rw [← List.all_iff_forall_prop, ← List.all_iff_forall_prop]
    cases area with
    | unknown name => cases h
    | _ => decide

/-- No other text is put together with an operator and read with the same key. -/
theorem standsBefore_of_parse_append {key : Key} (hkey : key.IsAddressable) {op : Operator}
    {value : String} (hop : op.Leads (op.sign ++ value).toList) {c : Condition}
    (hparse : parse (key.text ++ op.sign ++ value) = .ok c) (hc : c.key = key) :
    StandsBefore op key.text := by
  obtain ⟨area, name⟩ := key
  have hknown : area.isKnown = true := hkey.known
  obtain ⟨front, hne, htext, hspace, hsign⟩ := exists_text_eq_append hknown
  obtain ⟨place, hplace, -, hread, -⟩ := parse_eq_ok_iff.mp hparse
  rw [hc, textBefore] at hread
  have hchars : (Key.text ⟨area, name⟩ ++ op.sign ++ value).toList
      = front.toList ++ (name.toList ++ (op.sign ++ value).toList) := by
    rw [htext, String.append_assoc, String.append_assoc, String.toList_append,
      String.toList_append]
  rw [hchars] at hread hplace
  -- the place is behind the section, and not behind the name
  have hge : front.toList.length ≤ place := by
    by_contra hlt
    obtain ⟨other, hother⟩ := hplace.operator
    refine forall_not_begins_append_iff.mpr ⟨fun c hc ↦ (hsign c hc).1, ?_⟩ place
      (Nat.lt_of_not_le hlt) other hother
    exact fun hmark ↦ absurd rfl (hsign '!' (List.mem_of_getLast? hmark)).2
  obtain ⟨n, rfl⟩ := Nat.exists_eq_add_of_le hge
  have hle : n ≤ name.toList.length := by
    by_contra hlt
    refine hplace.first (front.toList.length + name.toList.length) (by omega) op ?_
    rw [← List.append_assoc, ← List.length_append, List.drop_left]
    exact hop.begins
  -- so its key has a name that is part of this one
  have hbefore : String.ofList ((front.toList ++ (name.toList ++ (op.sign ++ value).toList)).take
      (front.toList.length + n)) = front ++ String.ofList (name.toList.take n) := by
    rw [List.take_length_add_append, List.take_append_of_le_length hle, String.ofList_append,
      String.ofList_toList]
  rw [hbefore, trim_append hne hspace, ← htext, Key.parse?_text_of_isKnown hknown] at hread
  split_ifs at hread
  have hname : (name.toList.take n).rdropWhile Unicode.isWhiteSpace = name.toList := by
    simpa using congrArg String.toList (Key.mk.inj (Option.some.inj hread)).2
  -- which is all of it
  have hlength : name.toList.length ≤ (name.toList.take n).length := by
    conv_lhs => rw [← hname]
    exact (List.rdropWhile_prefix _ _).length_le
  rw [List.length_take] at hlength
  obtain rfl : n = name.toList.length := by omega
  rw [List.take_length] at hname
  have hfirst := hplace.first
  rw [← List.append_assoc, ← List.length_append, ← String.toList_append, ← htext,
    forall_not_begins_append_iff, head?_toList_sign_append] at hfirst
  refine ⟨?_, hfirst.1, hfirst.2⟩
  rw [htext, trim_append hne hspace, hname, String.ofList_toList]

/-- **Conditions are read by their grammar.** A text is a condition exactly if an operator begins
somewhere in it and what stands before the first place of one, without white space around it, names
a key; the condition has that key, the longest operator there, and what follows as its literal. So a
condition is read back from the text of its key, the sign of its operator and the text of its value,
if the first can stand before an operator and no longer operator comes of the two others. -/
theorem parse_eq_ok_iff_and_parse_append :
    (∀ text, (∃ c, parse text = .ok c) ↔
      ∃ place, IsFirstPlace text.toList place ∧
        ∃ key, Key.parse? (Text.trim (textBefore text place)) = some key) ∧
    (∀ text c, parse text = .ok c ↔
      ∃ place, IsFirstPlace text.toList place ∧ c.op.Leads (text.toList.drop place) ∧
        Key.parse? (Text.trim (textBefore text place)) = some c.key ∧
        c.literal =
          let rest := Text.trim (textFrom text (place + c.op.sign.length))
          if c.op = .pattern then .string rest else Value.ofTyped rest) ∧
    ∀ (key : Key) (op : Operator) (value : String),
      key.IsAddressable → IsPlain key.text → op.Leads (op.sign ++ value).toList →
        parse (key.text ++ op.sign ++ value) = .ok ⟨key, op,
          if op = .pattern then .string (Text.trim value) else Value.ofTyped (Text.trim value)⟩ := by
  refine ⟨fun text ↦ exists_parse_eq_ok_iff, fun text c ↦ parse_eq_ok_iff, ?_⟩
  intro key op value hkey hplain hop
  exact parse_append hkey (hplain.standsBefore op) hop

/-- The key has colons and a mark in its name, the value white space that is not in ASCII around it,
and a sign could be taken for another one. -/
theorem parse_append_of_marks_and_colons :
    let key : Key := ⟨.config, "opt:a!.b"⟩
    key.IsAddressable ∧ IsPlain key.text ∧ Operator.lt.Leads ("<" ++ "\u2003-7\t").toList ∧
      parse "config:opt:a!.b<\u2003-7\t" = .ok ⟨key, .lt, .number (Double.ofInt (-7))⟩ := by
  intro key
  have hkey : key.IsAddressable := ⟨rfl, by decide⟩
  have hplain : IsPlain key.text := by decide
  have hop : Operator.lt.Leads ("<" ++ "\u2003-7\t").toList := by decide
  refine ⟨hkey, hplain, hop, ?_⟩
  have hliteral : Value.ofTyped (Text.trim "\u2003-7\t") = .number (Double.ofInt (-7)) := by rfl
  have hparse := parse_eq_ok_iff_and_parse_append.2.2 key .lt "\u2003-7\t" hkey hplain hop
  rw [if_neg (by decide), hliteral] at hparse
  exact hparse

end Condition

end RunQuery

import RunQuery.Proofs.Json.Rewriting
import RunQuery.Proofs.Tree.Canonical

/-!
# Documents with numbers that are not finite

What the reading that goes by placeholders accepts, and what it makes of it, said without
placeholders: a document is data in which a word for a number that is not finite may stand wherever
a number may, and a text spells the document whose tokens it has.

Every document that is not nested too deeply is read as its value, if none of its strings is a
placeholder. The other way round there is a gap. Since a bare word becomes a string before the
reader sees it, it is also taken where only a string may stand: before a colon. This is the only
thing that is accepted beyond documents.
-/

namespace RunQuery.Json.Extended

open Token (scanAll)

/-- The data of a document. -/
abbrev Data := Tree (Number ⊕ NonFinite)

/-- The token of a number, finite or not. -/
def numberToken : Number ⊕ NonFinite → Token := Sum.elim .number .word

/-- Does the text have the tokens of the document? -/
def Spells (text : String) (d : Data) : Prop := scanAll text.toList = some (d.tokens numberToken)

namespace Data

/-- The document with its bare words as placeholders. -/
def quoted (d : Data) : Json := d.graft (Sum.elim .number fun n ↦ .string (placeholder n)) .string

/-- The value of a document: every number becomes its double. -/
def value (d : Data) : Value := d.map (Sum.elim Number.toDouble NonFinite.toDouble)

@[simp] theorem depth_quoted (d : Data) : d.quoted.depth = d.depth := by
  refine Tree.depth_graft (fun n ↦ ?_) (fun _ ↦ rfl) d
  cases n with
  | inl n => rfl
  | inr n => rfl

end Data

/-! ## The value of a document -/

@[simp] theorem itemsToValue_eq (items : List Json) : itemsToValue items = items.map toValue := by
  induction items with
  | nil => rfl
  | cons item items ih => rw [itemsToValue, ih, List.map_cons]

@[simp] theorem membersToValue_eq (members : List (String × Json)) :
    membersToValue members = members.map fun m ↦ (m.1, toValue m.2) := by
  induction members with
  | nil => rfl
  | cons m members ih => rw [membersToValue, ih, List.map_cons]

theorem toValue_eq_graft (json : Json) :
    toValue json = json.graft (fun n ↦ .number n.toDouble) fun s ↦ toValue (.string s) := by
  induction json using Tree.induct with
  | null => rfl
  | bool b => rfl
  | number n => rfl
  | string s => rfl
  | array items ih =>
    rw [toValue, itemsToValue_eq, Tree.graft_array, List.map_congr_left ih]
  | object members ih =>
    rw [toValue, membersToValue_eq, Tree.graft_object,
      List.map_congr_left fun m hm ↦ congrArg (Prod.mk m.1) (ih m hm)]

@[simp] theorem toValue_placeholder (n : NonFinite) :
    toValue (.string (placeholder n)) = .number n.toDouble := by
  cases n with
  | nan => rfl
  | infinity => rfl
  | negInfinity => rfl

theorem ofPlaceholder?_eq_none_iff {s : String} :
    ofPlaceholder? s = none ↔ ∀ n, s ≠ placeholder n := by
  rw [ofPlaceholder?, List.find?_eq_none]
  refine forall_congr' fun n ↦ ?_
  simp only [NonFinite.mem_all, true_imp_iff, beq_iff_eq, ne_eq, eq_comm (a := s)]

theorem toValue_string {s : String} (h : ∀ n, s ≠ placeholder n) :
    toValue (.string s) = .string s := by
  rw [toValue, ofPlaceholder?_eq_none_iff.mpr h]

theorem toValue_quoted {d : Data} (h : ∀ s ∈ d.strings, ∀ n, s ≠ placeholder n) :
    toValue d.quoted = d.value := by
  rw [toValue_eq_graft, Data.quoted, Tree.graft_graft, Data.value, Tree.map_eq_graft,
    Tree.graft_eq_graft_iff]
  refine ⟨fun n _ ↦ ?_, fun s hs ↦ toValue_string (h s hs)⟩
  cases n with
  | inl n => rfl
  | inr n => exact toValue_placeholder n

theorem toValue_eq_ofJson {json : Json} (h : ∀ s ∈ json.strings, ∀ n, s ≠ placeholder n) :
    toValue json = Value.ofJson json := by
  rw [toValue_eq_graft, Value.ofJson, Tree.map_eq_graft, Tree.graft_eq_graft_iff]
  exact ⟨fun _ _ ↦ rfl, fun s hs ↦ toValue_string (h s hs)⟩

theorem canonical_quoted (d : Data) : d.quoted.canonical = Data.quoted d.canonical := by
  refine Tree.canonical_graft (fun n ↦ ?_) (fun _ ↦ rfl) d
  cases n with
  | inl n => rfl
  | inr n => rfl

/-! ## What is read -/

theorem parse_eq (text : String) :
    parse text = (scanAll text.toList).bind fun tokens ↦
      (ofTokens (tokens.map spell)).map fun json ↦ toValue json.canonical := by
  rw [parse, Json.parse, read, String.toList_ofList, scanAll_rewrite, Option.map_map,
    Option.bind_map, Option.map_bind]
  rfl

theorem along_map_spell : Tree.Along (List.map spell) where
  nil := rfl
  null := rfl
  bool _ := rfl
  string _ := rfl
  comma _ _ := List.map_append
  member _ _ := rfl
  array _ := by rw [List.map_append]; rfl
  object _ := by rw [List.map_append]; rfl

theorem map_spell_tokens (d : Data) : (d.tokens numberToken).map spell = tokensOf d.quoted := by
  refine along_map_spell.tokens (fun n ↦ ?_) d
  cases n with
  | inl n => rfl
  | inr n => rfl

theorem parse_of_spells {text : String} {d : Data} (h : Spells text d)
    (hdepth : d.depth ≤ nestingLimit)
    (hstrings : ∀ s ∈ d.canonical.strings, ∀ n, s ≠ placeholder n) :
    parse text = some d.value.canonical := by
  have hread : ofTokens (tokensOf d.quoted) = some d.quoted :=
    ofTokens_eq_some_iff.mpr ⟨rfl, d.depth_quoted ▸ hdepth⟩
  rw [parse_eq, show scanAll text.toList = _ from h, Option.bind_some, map_spell_tokens, hread,
    Option.map_some, canonical_quoted, toValue_quoted hstrings, Data.value, Data.value,
    Tree.canonical_map]

theorem parse_of_parse {text : String} {json : Json} (h : Json.parse text = some json) :
    parse text = some (toValue json) := by
  obtain ⟨written, hread, rfl⟩ := Option.map_eq_some_iff.mp h
  obtain ⟨tokens, htokens, hof⟩ := Option.bind_eq_some_iff.mp hread
  have hsame : tokens.map spell = tokens := by
    rw [(ofTokens_eq_some_iff.mp hof).1]
    have hwritten : (tokensOf written).map spell = (written.graft .number .string).tokens .number :=
      along_map_spell.tokens (fun _ ↦ rfl) written
    rwa [Tree.graft_number_string] at hwritten
  rw [parse_eq, htokens, Option.bind_some, hsame, hof, Option.map_some]

/-- **Every document is read as its value.** However it is written, and as long as it is not nested
too deeply and no string in it is a placeholder, the reading gives the data of the document, words
as their numbers and the last member of each key; on a text of JSON without bare words it agrees
with the reading of JSON. -/
theorem parse_eq_some_value (text : String) :
    (∀ d, Spells text d → d.depth ≤ nestingLimit →
      (∀ s ∈ d.strings, ∀ n, s ≠ placeholder n) → parse text = some d.value.canonical) ∧
    ∀ json, Json.parse text = some json → (∀ s ∈ json.strings, ∀ n, s ≠ placeholder n) →
      parse text = some (Value.ofJson json) := by
  constructor
  · intro d hspells hdepth hstrings
    exact parse_of_spells hspells hdepth (Tree.forall_mem_strings_canonical hstrings)
  · intro json hparse hstrings
    rw [parse_of_parse hparse, toValue_eq_ofJson hstrings]

/-- A document with repeated keys, words in strings and words as values, and a text of JSON with a
word in a string. -/
theorem parse_eq_some_value_of_words :
    parse "\x7b\"a\": [NaN, -Infinity, \"NaN\\\"\"],\"NaN\": 2, \"a\" :Infinity\x7d"
      = some (.object [("NaN", .number (Double.ofInt 2)), ("a", .number (Double.infinity false))]) ∧
    parse "[1, \"Infinity\", \x7b\x7d]"
      = some (.array [.number (Double.ofInt 1), .string "Infinity", .object []]) := by
  constructor
  · have hspells : Spells "\x7b\"a\": [NaN, -Infinity, \"NaN\\\"\"],\"NaN\": 2, \"a\" :Infinity\x7d"
        (.object [
          ("a", .array [.number (.inr .nan), .number (.inr .negInfinity), .string "NaN\""]),
          ("NaN", .number (.inl (.int 2))), ("a", .number (.inr .infinity))]) := by
      rw [Spells]
      decide +kernel
    refine (parse_eq_some_value _).1 _ hspells (by decide) ?_
    simp only [← ofPlaceholder?_eq_none_iff]
    decide
  · have hparse : Json.parse "[1, \"Infinity\", \x7b\x7d]"
        = some (.array [.number (.int 1), .string "Infinity", .object []]) := by
      have htokens : scanAll "[1, \"Infinity\", \x7b\x7d]".toList
          = some [.beginArray, .number (.int 1), .comma, .string "Infinity", .comma, .beginObject,
            .endObject, .endArray] := by
        decide +kernel
      rw [Json.parse, read, htokens]
      rfl
    refine (parse_eq_some_value _).2 _ hparse ?_
    simp only [← ofPlaceholder?_eq_none_iff]
    decide

/-! ## Nothing else is read -/

/-- The tokens in which each bare word before a colon is a string. -/
def quoteKeys : List Token → List Token
  | .word n :: .colon :: rest => .string (placeholder n) :: .colon :: quoteKeys rest
  | t :: rest => t :: quoteKeys rest
  | [] => []

theorem quoteKeys_cons {t : Token} (rest : List Token)
    (h : ∀ n, t = .word n → rest.head? ≠ some .colon) :
    quoteKeys (t :: rest) = t :: quoteKeys rest := by
  rw [quoteKeys]
  rintro n rest' rfl rfl
  exact h n rfl rfl

theorem quoteKeys_append_cons (ts : List Token) {u : Token} (us : List Token) (h : u ≠ .colon) :
    quoteKeys (ts ++ u :: us) = quoteKeys ts ++ quoteKeys (u :: us) := by
  fun_induction quoteKeys ts with
  | case1 n rest ih => exact congrArg (.string (placeholder n) :: .colon :: ·) ih
  | case2 t rest hkey ih =>
    rw [List.cons_append, quoteKeys_cons, ih, List.cons_append]
    rintro n rfl hhead
    cases rest with
    | nil => exact h (Option.some.inj hhead)
    | cons v rest =>
      obtain rfl := Option.some.inj hhead
      exact hkey n rest rfl rfl
  | case3 => rfl

theorem quoteKeys_eq_self_iff {ts : List Token} :
    quoteKeys ts = ts ↔ ∀ n, ¬[.word n, .colon] <:+: ts := by
  fun_induction quoteKeys ts with
  | case1 n rest ih =>
    refine iff_of_false (fun h ↦ ?_) fun h ↦ h n ⟨[], rest, rfl⟩
    cases (List.cons.inj h).1
  | case2 t rest hkey ih =>
    rw [List.cons.injEq, ih]
    simp only [true_and, List.infix_cons_iff, not_or]
    refine forall_congr' fun n ↦ (and_iff_right ?_).symm
    rintro ⟨after, heq⟩
    obtain ⟨rfl, rfl⟩ := List.cons.inj heq
    exact hkey n after rfl rfl
  | case3 => simp

theorem along_quoteKeys : Tree.Along quoteKeys where
  nil := rfl
  null := rfl
  bool _ := rfl
  string _ := rfl
  comma ts us := quoteKeys_append_cons ts us nofun
  member _ _ := rfl
  array ts := quoteKeys_append_cons (.beginArray :: ts) [] nofun
  object ts := quoteKeys_append_cons (.beginObject :: ts) [] nofun

theorem quoteKeys_tokens (d : Data) :
    quoteKeys (d.tokens numberToken) = d.tokens numberToken := by
  have hnumber : ∀ n, quoteKeys [numberToken n] = (Tree.number n).tokens numberToken := by
    intro n
    cases n with
    | inl n => rfl
    | inr n => rfl
  rw [along_quoteKeys.tokens hnumber, Tree.graft_number_string]

/-- Tokens that are read as the tokens of data once their bare words are strings. -/
def IsRead (json : Json) : Prop :=
  ∀ tokens : List Token, tokens.map spell = tokensOf json →
    ∃ d : Data, quoteKeys tokens = d.tokens numberToken ∧ d.quoted = json

theorem eq_of_spell_eq {t u : Token} (h : spell t = u) (hu : ∀ s, u ≠ .string s) : t = u := by
  cases t with
  | word n => exact absurd h.symm (hu _)
  | _ => exact h

theorem exists_of_map_spell_eq {tokens ts us : List Token} {u : Token} (hu : ∀ s, u ≠ .string s)
    (h : tokens.map spell = ts ++ u :: us) :
    ∃ ts' us', tokens = ts' ++ u :: us' ∧ ts'.map spell = ts ∧ us'.map spell = us := by
  obtain ⟨ts', rest, rfl, hts, hrest⟩ := List.map_eq_append_iff.mp h
  obtain ⟨u', us', rfl, hu', hus⟩ := List.map_eq_cons_iff.mp hrest
  obtain rfl := eq_of_spell_eq hu' hu
  exact ⟨ts', us', rfl, hts, hus⟩

theorem exists_items {items : List Json} (h : ∀ t ∈ items, IsRead t) {tokens : List Token}
    (htokens : tokens.map spell = Tree.itemTokens .number items) :
    ∃ l : List Data, quoteKeys tokens = Tree.itemTokens numberToken l ∧
      l.map Data.quoted = items := by
  induction items generalizing tokens with
  | nil =>
    obtain rfl := List.map_eq_nil_iff.mp htokens
    exact ⟨[], rfl, rfl⟩
  | cons first items ih =>
    obtain ⟨hfirst, hitems⟩ := List.forall_mem_cons.mp h
    cases items with
    | nil =>
      obtain ⟨d, hd, rfl⟩ := hfirst tokens htokens
      exact ⟨[d], hd, rfl⟩
    | cons second items =>
      have hcomma : ∀ s, Token.comma ≠ .string s := nofun
      obtain ⟨ts, us, rfl, hts, hus⟩ := exists_of_map_spell_eq hcomma htokens
      obtain ⟨d, hd, rfl⟩ := hfirst ts hts
      obtain ⟨l, hl, hitems⟩ := ih hitems hus
      cases l with
      | nil => cases hitems
      | cons e l =>
        refine ⟨d :: e :: l, ?_, congrArg (d.quoted :: ·) hitems⟩
        rw [along_quoteKeys.comma, hd, hl]
        rfl

/-- A member begins with a key, which may be a bare word, and a colon. -/
theorem quoteKeys_of_map_spell_eq {tokens ts : List Token} {key : String}
    (h : tokens.map spell = .string key :: .colon :: ts) :
    ∃ ts', quoteKeys tokens = .string key :: .colon :: quoteKeys ts' ∧ ts'.map spell = ts := by
  obtain ⟨k, rest, rfl, hk, hrest⟩ := List.map_eq_cons_iff.mp h
  obtain ⟨c, ts', rfl, hc, hts⟩ := List.map_eq_cons_iff.mp hrest
  obtain rfl := eq_of_spell_eq hc nofun
  refine ⟨ts', ?_, hts⟩
  cases k with
  | word n => exact congrArg (· :: Token.colon :: quoteKeys ts') hk
  | string s => exact congrArg (· :: Token.colon :: quoteKeys ts') hk
  | _ => cases hk

theorem exists_members {members : List (String × Json)} (h : ∀ m ∈ members, IsRead m.2)
    {tokens : List Token} (htokens : tokens.map spell = Tree.memberTokens .number members) :
    ∃ l : List (String × Data), quoteKeys tokens = Tree.memberTokens numberToken l ∧
      l.map (fun m ↦ (m.1, m.2.quoted)) = members := by
  induction members generalizing tokens with
  | nil =>
    obtain rfl := List.map_eq_nil_iff.mp htokens
    exact ⟨[], rfl, rfl⟩
  | cons first members ih =>
    obtain ⟨key, value⟩ := first
    obtain ⟨hfirst, hmembers⟩ := List.forall_mem_cons.mp h
    cases members with
    | nil =>
      obtain ⟨ts, hkey, hts⟩ := quoteKeys_of_map_spell_eq htokens
      obtain ⟨d, hd, rfl⟩ := hfirst ts hts
      exact ⟨[(key, d)], by rw [hkey, hd]; rfl, rfl⟩
    | cons second members =>
      have hcomma : ∀ s, Token.comma ≠ .string s := nofun
      obtain ⟨ts, us, rfl, hts, hus⟩ := exists_of_map_spell_eq hcomma htokens
      obtain ⟨ts', hkey, hts'⟩ := quoteKeys_of_map_spell_eq hts
      obtain ⟨d, hd, rfl⟩ := hfirst ts' hts'
      obtain ⟨l, hl, hmembers⟩ := ih hmembers hus
      cases l with
      | nil => cases hmembers
      | cons e l =>
        refine ⟨(key, d) :: e :: l, ?_, congrArg ((key, d.quoted) :: ·) hmembers⟩
        rw [along_quoteKeys.comma, hkey, hd, hl]
        rfl

theorem exists_of_map_spell_eq_enclosed {tokens ts : List Token} {t u : Token}
    (ht : ∀ s, t ≠ .string s) (hu : ∀ s, u ≠ .string s) (h : tokens.map spell = t :: ts ++ [u]) :
    ∃ ts', tokens = t :: ts' ++ [u] ∧ ts'.map spell = ts := by
  obtain ⟨front, us, rfl, hfront, hus⟩ := exists_of_map_spell_eq hu h
  obtain rfl := List.map_eq_nil_iff.mp hus
  obtain ⟨t', ts', rfl, ht', hts⟩ := List.map_eq_cons_iff.mp hfront
  obtain rfl := eq_of_spell_eq ht' ht
  exact ⟨ts', rfl, hts⟩

/-- Data of one token that is no string can be read from that token only. -/
theorem isRead_of_tokensOf_eq {t : Token} (ht : ∀ s, t ≠ .string s) {json : Json}
    (hjson : tokensOf json = [t]) (d : Data) (hd : quoteKeys [t] = d.tokens numberToken)
    (hquoted : d.quoted = json) : IsRead json := by
  intro tokens h
  obtain ⟨t', rfl, ht'⟩ := List.map_eq_singleton_iff.mp (h.trans hjson)
  obtain rfl := eq_of_spell_eq ht' ht
  exact ⟨d, hd, hquoted⟩

theorem isRead (json : Json) : IsRead json := by
  induction json using Tree.induct with
  | null => exact isRead_of_tokensOf_eq (t := .null) nofun rfl .null rfl rfl
  | bool b => exact isRead_of_tokensOf_eq (t := .bool b) nofun rfl (.bool b) rfl rfl
  | number n =>
    exact isRead_of_tokensOf_eq (t := .number n) nofun rfl (.number (.inl n)) rfl rfl
  | string s =>
    -- a string that is a placeholder may have been a bare word
    intro tokens h
    obtain ⟨t, rfl, ht⟩ := List.map_eq_singleton_iff.mp h
    cases t with
    | string s =>
      cases ht
      exact ⟨.string s, rfl, rfl⟩
    | word n =>
      cases ht
      exact ⟨.number (.inr n), rfl, rfl⟩
    | _ => cases ht
  | array items ih =>
    intro tokens h
    have hmarks : (∀ s, Token.beginArray ≠ .string s) ∧ ∀ s, Token.endArray ≠ .string s :=
      ⟨nofun, nofun⟩
    obtain ⟨ts, rfl, hts⟩ := exists_of_map_spell_eq_enclosed hmarks.1 hmarks.2 h
    obtain ⟨l, hl, rfl⟩ := exists_items ih hts
    refine ⟨.array l, ?_, Tree.graft_array ..⟩
    rw [along_quoteKeys.array, hl]
    rfl
  | object members ih =>
    intro tokens h
    have hmarks : (∀ s, Token.beginObject ≠ .string s) ∧ ∀ s, Token.endObject ≠ .string s :=
      ⟨nofun, nofun⟩
    obtain ⟨ts, rfl, hts⟩ := exists_of_map_spell_eq_enclosed hmarks.1 hmarks.2 h
    obtain ⟨l, hl, rfl⟩ := exists_members ih hts
    refine ⟨.object l, ?_, Tree.graft_object ..⟩
    rw [along_quoteKeys.object, hl]
    rfl

theorem map_spell_quoteKeys (ts : List Token) : (quoteKeys ts).map spell = ts.map spell := by
  fun_induction quoteKeys ts with
  | case1 n rest ih => exact congrArg (.string (placeholder n) :: .colon :: ·) ih
  | case2 t rest hkey ih => exact congrArg (spell t :: ·) ih
  | case3 => rfl

/-- A text is accepted exactly if it spells a document, bare words before a colon taken as
strings. -/
theorem isSome_parse_iff (text : String) :
    (parse text).isSome ↔ ∃ tokens, scanAll text.toList = some tokens ∧
      ∃ d : Data, quoteKeys tokens = d.tokens numberToken ∧ d.depth ≤ nestingLimit := by
  rw [parse_eq]
  constructor
  · intro h
    obtain ⟨v, hv⟩ := Option.isSome_iff_exists.mp h
    obtain ⟨tokens, htokens, hread⟩ := Option.bind_eq_some_iff.mp hv
    obtain ⟨json, hjson, -⟩ := Option.map_eq_some_iff.mp hread
    obtain ⟨hspell, hdepth⟩ := ofTokens_eq_some_iff.mp hjson
    obtain ⟨d, hd, rfl⟩ := isRead json tokens hspell
    exact ⟨tokens, htokens, d, hd, d.depth_quoted ▸ hdepth⟩
  · rintro ⟨tokens, htokens, d, hd, hdepth⟩
    have hspell : tokens.map spell = tokensOf d.quoted := by
      rw [← map_spell_quoteKeys, hd, map_spell_tokens]
    rw [htokens, Option.bind_some, Option.isSome_map,
      ofTokens_eq_some_iff.mpr ⟨hspell, d.depth_quoted ▸ hdepth⟩]
    rfl

/-- **What is read is a document, except that a bare word may stand before a colon.** An accepted
text has the tokens of a document once its bare words before colons are strings, and it spells a
document exactly if there are none. -/
theorem spells_iff_of_parse {text : String} {v : Value} (h : parse text = some v) :
    ∃ tokens, scanAll text.toList = some tokens ∧
      (∃ d : Data, quoteKeys tokens = d.tokens numberToken ∧ d.depth ≤ nestingLimit) ∧
      ((∃ d, Spells text d ∧ d.depth ≤ nestingLimit) ↔ ∀ n, ¬[.word n, .colon] <:+: tokens) := by
  obtain ⟨tokens, htokens, d, hd, hdepth⟩ :=
    (isSome_parse_iff text).mp (Option.isSome_iff_exists.mpr ⟨v, h⟩)
  refine ⟨tokens, htokens, ⟨d, hd, hdepth⟩, ?_⟩
  rw [← quoteKeys_eq_self_iff]
  constructor
  · rintro ⟨e, he, -⟩
    obtain rfl := Option.some.inj (htokens.symm.trans he)
    exact quoteKeys_tokens e
  · intro hsame
    exact ⟨d, htokens.trans (congrArg some (hsame.symm.trans hd)), hdepth⟩

/-- A text with words as values and as a key. -/
theorem spells_iff_of_words_on_both_sides :
    ∃ v, parse "\x7b\"a\" : [NaN, 1], Infinity : -Infinity\x7d" = some v ∧
      ∃ tokens, scanAll "\x7b\"a\" : [NaN, 1], Infinity : -Infinity\x7d".toList = some tokens ∧
        (∃ d : Data, quoteKeys tokens = d.tokens numberToken ∧ d.depth ≤ nestingLimit) ∧
        ((∃ d, Spells "\x7b\"a\" : [NaN, 1], Infinity : -Infinity\x7d" d ∧ d.depth ≤ nestingLimit) ↔
          ∀ n, ¬[.word n, .colon] <:+: tokens) := by
  have hsome : (parse "\x7b\"a\" : [NaN, 1], Infinity : -Infinity\x7d").isSome = true := by
    decide +kernel
  obtain ⟨v, hv⟩ := Option.isSome_iff_exists.mp hsome
  exact ⟨v, hv, spells_iff_of_parse hv⟩

/-- An object with a bare word for a key is read, and is no document. -/
theorem parse_bare_key :
    (parse "\x7bNaN:1\x7d").isSome = true ∧ ¬∃ d, Spells "\x7bNaN:1\x7d" d := by
  refine ⟨by decide +kernel, ?_⟩
  rintro ⟨d, hd⟩
  have htokens : scanAll "\x7bNaN:1\x7d".toList
      = some [.beginObject, .word .nan, .colon, .number (.int 1), .endObject] := by
    decide +kernel
  have hkeys := quoteKeys_tokens d
  rw [← Option.some.inj (htokens.symm.trans hd)] at hkeys
  exact absurd hkeys (by decide)

end RunQuery.Json.Extended

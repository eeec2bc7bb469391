import RunQuery.Proofs.Json.Written
import RunQuery.Proofs.Run.Payload
import RunQuery.Proofs.Tree.Members

/-!
# Payloads that deliver the same run

A run is put together from what is read of the members of its payload, one by one. So payloads
deliver the same run if the same is read of their members, even where these differ, which they may
in two ways.

Configuration and metrics may be delivered as data or as the text of that data, which is read with
more tolerance than it is written with. The tolerance does no harm: a text that was written for data
has no bare words, also where the data has `NaN` among its strings and names.

A member that is not of its type is read as if it were missing. There is one exception. The login
name of the owner is looked for under `username`, and under `name` only where there is no `username`
at all, whatever it may be. So a `username` that is no text hides a `name` that is one.
-/

namespace RunQuery

namespace Run

/-! ## What is read of the members -/

/-- The members of a payload that are read as texts. -/
def textMembers : List String :=
  ["name", "id", "state", "description", "host", "createdAt", "heartbeatAt"]

/-- Is the same read of the members of two payloads, their owners aside? -/
structure AgreesBesidesUser (p q : Json) : Prop where
  /-- The texts are the same, and with them the timestamps. -/
  text : ∀ name ∈ textMembers, textField? p name = textField? q name
  /-- The tags are the same. -/
  tags : tagsOfPayload (p.member? "tags") = tagsOfPayload (q.member? "tags")
  /-- The configurations are the same. -/
  config : configOfPayload (p.member? "config") = configOfPayload (q.member? "config")
  /-- The metrics are the same. -/
  summary :
    summaryOfPayload (p.member? "summaryMetrics") = summaryOfPayload (q.member? "summaryMetrics")

theorem AgreesBesidesUser.ofPayload?_eq {p q : Json} (h : AgreesBesidesUser p q) :
    ofPayload? q
      = (ofPayload? p).map fun run ↦ { run with user := userOfPayload (q.member? "user") } := by
  have htext : ∀ name ∈ textMembers, textField? q name = textField? p name :=
    fun name hname ↦ (h.text name hname).symm
  simp only [textMembers, List.forall_mem_cons] at htext
  obtain ⟨hname, hid, hstate, hdescription, hhost, hcreated, hheartbeat, -⟩ := htext
  simp only [ofPayload?, instantField?, hname, hid, hstate, hdescription, hhost, hcreated,
    hheartbeat, ← h.tags, ← h.config, ← h.summary]
  cases textField? p "name" with
  | none => rfl
  | some name => rfl

theorem configOfPayload_congr {a b : Option Json} (h : a.bind embedded? = b.bind embedded?) :
    configOfPayload a = configOfPayload b := by
  rw [configOfPayload, h, configOfPayload]

theorem summaryOfPayload_congr {a b : Option Json} (h : a.bind embedded? = b.bind embedded?) :
    summaryOfPayload a = summaryOfPayload b := by
  rw [summaryOfPayload, h, summaryOfPayload]

/-! ## Data and its text -/

theorem embedded?_string_compact {json : Json} (hcanonical : json.IsCanonical)
    (hstored : ∀ n ∈ json.numbers, n.IsStored)
    (hfloats : ∀ x, Json.Number.float x ∈ json.numbers → (Json.Number.float x).ReadsBack)
    (hdepth : json.depth ≤ Json.nestingLimit)
    (hstrings : ∀ s ∈ json.strings, ∀ n, s ≠ Json.Extended.placeholder n) :
    embedded? (.string (Json.compact json)) = some (Value.ofJson json) := by
  have hparse := Json.parse_compact hcanonical hstored hfloats hdepth
  rw [embedded?, Json.Extended.parse_of_parse hparse, Json.Extended.toValue_eq_ofJson hstrings]

/-- The members that may be delivered as data or as a text. -/
def embeddedMembers : List String := ["config", "summaryMetrics"]

theorem ne_of_mem_embeddedMembers {field : String} (h : field ∈ embeddedMembers) :
    ∀ other ∈ textMembers ++ ["tags", "user"], other ≠ field := by
  revert h field
  decide

theorem agreesBesidesUser_putMember {payload value value' : Json} {name field : String}
    (hname : textField? payload "name" = some name) (hfield : field ∈ embeddedMembers)
    (hvalue : embedded? value = embedded? value') :
    AgreesBesidesUser (payload.putMember field value) (payload.putMember field value') := by
  obtain ⟨nameValue, hmember, -⟩ := Option.bind_eq_some_iff.mp hname
  have hother {other : String} (hne : other ≠ field) :
      (payload.putMember field value).member? other
        = (payload.putMember field value').member? other := by
    rw [Tree.member?_putMember_of_ne hne, Tree.member?_putMember_of_ne hne]
  have hembedded (other : String) :
      ((payload.putMember field value).member? other).bind embedded?
        = ((payload.putMember field value').member? other).bind embedded? := by
    by_cases heq : other = field
    · rw [heq, Tree.member?_putMember_self hmember, Tree.member?_putMember_self hmember]
      exact hvalue
    · rw [hother heq]
  have hne := ne_of_mem_embeddedMembers hfield
  constructor
  · intro other hmem
    rw [textField?, textField?, hother (hne other (List.mem_append_left _ hmem))]
  · rw [hother (hne "tags" (by decide))]
  · exact configOfPayload_congr (hembedded "config")
  · exact summaryOfPayload_congr (hembedded "summaryMetrics")

/-- **Data and its text deliver the same run.** Whatever else a payload has, it delivers the same
run with an object as its configuration or metrics and with the text of that object in its place.
Both are taken for the value of the object, if it is not nested too deeply, no digits of its numbers
are lost in reading and none of its strings is a placeholder. -/
theorem ofPayload?_putMember_compact {payload : Json} {name field : String}
    (hname : textField? payload "name" = some name) (hfield : field ∈ embeddedMembers)
    {members : List (String × Json)} (hcanonical : (Tree.object members).IsCanonical)
    (hstored : ∀ n ∈ (Tree.object members).numbers, n.IsStored)
    (hfloats : ∀ x, Json.Number.float x ∈ (Tree.object members).numbers →
      (Json.Number.float x).ReadsBack)
    (hdepth : (Tree.object members).depth ≤ Json.nestingLimit)
    (hstrings : ∀ s ∈ (Tree.object members).strings, ∀ n, s ≠ Json.Extended.placeholder n) :
    (∃ run, ofPayload? (payload.putMember field (.object members)) = some run ∧
      ofPayload? (payload.putMember field (.string (Json.compact (.object members)))) = some run) ∧
    embedded? (.object members) = some (Value.ofJson (.object members)) ∧
    embedded? (.string (Json.compact (.object members)))
      = some (Value.ofJson (.object members)) := by
  have hdata : embedded? (.object members) = some (Value.ofJson (.object members)) := rfl
  have htext := embedded?_string_compact hcanonical hstored hfloats hdepth hstrings
  have hne := ne_of_mem_embeddedMembers hfield
  have hput : textField? (payload.putMember field (.object members)) "name" = some name := by
    rwa [textField?, Tree.member?_putMember_of_ne (hne "name" (by decide))]
  obtain ⟨run, hrun⟩ := exists_ofPayload? hput
  refine ⟨⟨run, hrun, ?_⟩, hdata, htext⟩
  -- the two payloads agree besides their owners, and neither has another owner than the payload
  have huser := (members_of_ofPayload? hrun).1
  rw [Tree.member?_putMember_of_ne (hne "user" (by decide))] at huser
  have hagrees := agreesBesidesUser_putMember hname hfield (hdata.trans htext.symm)
  rw [hagrees.ofPayload?_eq, hrun, Option.map_some,
    Tree.member?_putMember_of_ne (hne "user" (by decide)), ← huser]

/-- An object with words for numbers that are not finite in its names and strings, with quotes and
with numbers of both kinds. -/
def wordyMembers : List (String × Json) := [
  ("NaN", .object [("value", .object [
    ("-Infinity", .number (.float (Double.ofInt 3))), ("q\"", .string "a, NaN: \"Infinity\"")])]),
  ("lr", .object [("value", .array [.number (.int (-2)), .null, .string "NaN"])])]

/-- With either form of it a payload has the same configuration. -/
theorem ofPayload?_putMember_compact_of_wordyMembers :
    ∃ run, ofPayload? (Tree.putMember (.object [("name", .string "r")]) "config"
        (.object wordyMembers)) = some run ∧
      ofPayload? (Tree.putMember (.object [("name", .string "r")]) "config"
        (.string (Json.compact (.object wordyMembers)))) = some run ∧
      run.config.get? "NaN.-Infinity" = some (.number (Double.ofInt 3)) ∧
      run.config.get? "NaN.q\"" = some (.string "a, NaN: \"Infinity\"") := by
  have hname : textField? (.object [("name", .string "r")]) "name" = some "r" := rfl
  have hfield : "config" ∈ embeddedMembers := by decide
  have hcanonical : (Tree.object wordyMembers).IsCanonical := rfl
  have hnumbers : ∀ n ∈ (Tree.object wordyMembers).numbers, n.IsStored ∧ n.ReadsBack := by
    decide +kernel
  have hstrings : ∀ s ∈ (Tree.object wordyMembers).strings,
      Json.Extended.ofPlaceholder? s = none := by
    decide +kernel
  obtain ⟨⟨run, hdata, htext⟩, -⟩ := ofPayload?_putMember_compact hname hfield hcanonical
    (fun n hn ↦ (hnumbers n hn).1) (fun x hx ↦ (hnumbers _ hx).2) (by decide)
    fun s hs ↦ Json.Extended.ofPlaceholder?_eq_none_iff.mp (hstrings s hs)
  refine ⟨run, hdata, htext, ?_⟩
  obtain rfl := Option.some.inj hdata
  exact ⟨rfl, rfl⟩

end Run

/-! ## Members that are not of their type -/

namespace Payload

/-- A place in a payload at which something may stand. -/
inductive Place where
  /-- A member of the payload. -/
  | member (name : String)
  /-- A member of the owner in it. -/
  | ofUser (name : String)
  deriving DecidableEq

/-- A type of data that is expected at a place. -/
inductive Shape where
  /-- A text. -/
  | text
  /-- A list of texts. -/
  | texts
  /-- An object. -/
  | record
  /-- An object, or a text that may stand for one. -/
  | embedded
  deriving DecidableEq

/-- Is the data of the type? -/
def Shape.fits : Shape → Json → Bool
  | text, .string _ => true
  | texts, .array items => items.all fun item ↦ item.string?.isSome
  | record, .object _ => true
  | embedded, .object _ => true
  | embedded, .string _ => true
  | _, _ => false

namespace Place

/-- What is expected at a place, where something is read that may also be missing. -/
def shape? : Place → Option Shape
  | member "id" => some .text
  | member "state" => some .text
  | member "description" => some .text
  | member "user" => some .record
  | ofUser "username" => some .text
  | ofUser "name" => some .text
  | ofUser "photoUrl" => some .text
  | member "host" => some .text
  | member "createdAt" => some .text
  | member "heartbeatAt" => some .text
  | member "tags" => some .texts
  | member "config" => some .embedded
  | member "summaryMetrics" => some .embedded
  | _ => none

/-- What stands at a place of a payload. -/
def value? (payload : Json) : Place → Option Json
  | member name => payload.member? name
  | ofUser name => (payload.member? "user").bind (Tree.member? name)

/-- Does something stand at the place that is not of its type? -/
def IsMalformed (payload : Json) (place : Place) : Prop :=
  ∃ shape ∈ place.shape?, ∃ value ∈ place.value? payload, shape.fits value = false

instance (payload : Json) (place : Place) : Decidable (place.IsMalformed payload) :=
  inferInstanceAs (Decidable (∃ shape ∈ place.shape?, ∃ value ∈ place.value? payload, _))

end Place

/-- The payload without what stands at certain places. -/
def without (payload : Json) (places : List Place) : Json :=
  (payload.dropMembers fun name ↦ .member name ∈ places).changeMember "user"
    (Tree.dropMembers fun name ↦ .ofUser name ∈ places)

/-- The login name that a payload gives. -/
def login (payload : Json) : String :=
  ((((Place.ofUser "username").value? payload).or
    ((Place.ofUser "name").value? payload)).bind Tree.string?).getD ""

/-- Where the picture of the owner is, as a payload gives it. -/
def photoUrl (payload : Json) : String :=
  (((Place.ofUser "photoUrl").value? payload).bind Tree.string?).getD ""

variable {payload : Json} {places : List Place}

theorem value?_ofUser_eq_none (h : (Place.member "user").IsMalformed payload) (name : String) :
    (Place.ofUser name).value? payload = none := by
  obtain ⟨shape, hshape, user, huser, hfits⟩ := h
  obtain rfl := Option.some.inj hshape
  rw [Place.value?, show payload.member? "user" = some user from huser, Option.bind_some]
  cases user with
  | object members => cases hfits
  | _ => rfl

theorem value?_without (h : ∀ place ∈ places, place.IsMalformed payload) (place : Place)
    (hplace : place ≠ .member "user") :
    place.value? (without payload places)
      = if place ∈ places then none else place.value? payload := by
  cases place with
  | member name =>
    have hname : name ≠ "user" := fun heq ↦ hplace (congrArg Place.member heq)
    rw [Place.value?, without, Tree.member?_changeMember, if_neg hname, Tree.member?_dropMembers,
      Place.value?]
    simp only [decide_eq_true_eq]
  | ofUser name =>
    rw [Place.value?, without, Tree.member?_changeMember, if_pos rfl, Tree.member?_dropMembers]
    -- if the whole owner is left out then it is no object, and there was nothing at the place
    by_cases huser : Place.member "user" ∈ places
    · rw [if_pos (decide_eq_true huser), value?_ofUser_eq_none (h _ huser), ite_self]
      rfl
    · rw [if_neg (mt of_decide_eq_true huser), Place.value?]
      cases payload.member? "user" with
      | none => exact (ite_self _).symm
      | some user =>
        refine (Tree.member?_dropMembers _ user name).trans ?_
        simp only [decide_eq_true_eq]
        rfl

theorem read_value?_without {α : Type} (read : Option Json → α)
    (h : ∀ place ∈ places, place.IsMalformed payload) (place : Place)
    (hplace : place ≠ .member "user")
    (hread : ∀ shape ∈ place.shape?, ∀ value, shape.fits value = false →
      read (some value) = read none) :
    read (place.value? (without payload places)) = read (place.value? payload) := by
  rw [value?_without h place hplace]
  split
  · next hmem =>
    obtain ⟨shape, hshape, value, hvalue, hfits⟩ := h place hmem
    rw [Option.mem_def.mp hvalue, hread shape hshape value hfits]
  · rfl

/-! ## What is read of malformed members -/

theorem string?_eq_none {value : Json} (h : Shape.text.fits value = false) :
    value.string? = none := by
  cases value with
  | string s => cases h
  | _ => rfl

theorem isSome_mapM {α β : Type} (f : α → Option β) (items : List α) :
    (items.mapM f).isSome = items.all fun item ↦ (f item).isSome := by
  induction items with
  | nil => rfl
  | cons item items ih =>
    rw [List.mapM_cons, List.all_cons, ← ih]
    cases f item with
    | none => rfl
    | some value =>
      cases items.mapM f with
      | none => rfl
      | some values => rfl

theorem tagsOfPayload_eq_nil {value : Json} (h : Shape.texts.fits value = false) :
    Run.tagsOfPayload (some value) = [] := by
  cases value with
  | array items =>
    have hnone : (items.mapM Tree.string?).isSome = false := (isSome_mapM _ items).trans h
    rw [Run.tagsOfPayload, Option.isNone_iff_eq_none.mp (Option.isSome_eq_false_iff.mp hnone),
      Option.getD_none]
  | _ => rfl

theorem bind_embedded?_ne_object {value : Json} (h : Shape.embedded.fits value = false)
    (entries : List (String × Value)) : Run.embedded? value ≠ some (.object entries) := by
  cases value with
  | object members => cases h
  | string s => cases h
  | _ => nofun

end Payload

namespace Run

open Payload

variable {payload : Json} {places : List Place}

theorem agreesBesidesUser_without (h : ∀ place ∈ places, place.IsMalformed payload) :
    AgreesBesidesUser payload (without payload places) := by
  constructor
  · intro name hname
    have hplace : ∀ name ∈ textMembers, Place.member name ≠ .member "user" := by decide
    have hshape : ∀ name ∈ textMembers, ∀ shape ∈ (Place.member name).shape?, shape = .text := by
      decide
    refine (read_value?_without (·.bind Tree.string?) h (.member name) (hplace name hname) ?_).symm
    intro shape hmem value hfits
    obtain rfl := hshape name hname shape hmem
    exact string?_eq_none hfits
  · refine (read_value?_without tagsOfPayload h (.member "tags") (by decide) ?_).symm
    rintro shape ⟨⟩ value hfits
    exact tagsOfPayload_eq_nil hfits
  · refine (read_value?_without configOfPayload h (.member "config") (by decide) ?_).symm
    rintro shape ⟨⟩ value hfits
    rw [configOfPayload]
    split
    · next entries hentries => exact absurd hentries (bind_embedded?_ne_object hfits entries)
    · rfl
  · refine (read_value?_without summaryOfPayload h (.member "summaryMetrics") (by decide) ?_).symm
    rintro shape ⟨⟩ value hfits
    rw [summaryOfPayload]
    split
    · next entries hentries => exact absurd hentries (bind_embedded?_ne_object hfits entries)
    · rfl

theorem userOfPayload_eq (payload : Json) :
    userOfPayload (payload.member? "user") = ⟨login payload, photoUrl payload⟩ := by
  rw [login, photoUrl, Place.value?, Place.value?, Place.value?]
  cases payload.member? "user" with
  | none => rfl
  | some user =>
    cases user with
    | object members => rfl
    | _ => rfl

theorem text_without (h : ∀ place ∈ places, place.IsMalformed payload) (name : String)
    (hname : (Place.ofUser name).shape? = some .text) :
    ((Place.ofUser name).value? (without payload places)).bind Tree.string?
      = ((Place.ofUser name).value? payload).bind Tree.string? := by
  refine read_value?_without (·.bind Tree.string?) h (.ofUser name) nofun ?_
  intro shape hshape value hfits
  obtain rfl := Option.some.inj (hname.symm.trans hshape)
  exact string?_eq_none hfits

theorem text_eq_empty_iff {value : Option Json} :
    (value.bind Tree.string?).getD "" = "" ↔ ¬∃ text, value = some (.string text) ∧ text ≠ "" := by
  constructor
  · rintro h ⟨text, rfl, hne⟩
    exact hne h
  · intro h
    rcases value with _ | json
    · rfl
    cases json with
    | string text =>
      by_contra hne
      exact h ⟨text, rfl, hne⟩
    | _ => rfl

/-- Only a malformed `username` that hides a `name` makes a difference for the login name. -/
theorem login_without_eq_iff (h : ∀ place ∈ places, place.IsMalformed payload) :
    login (without payload places) = login payload ↔
      ¬(.ofUser "username" ∈ places ∧ ∃ text,
        (Place.ofUser "name").value? payload = some (.string text) ∧ text ≠ "") := by
  have hname := text_without h "name" rfl
  rw [login, login, value?_without h (.ofUser "username") nofun]
  by_cases hmem : Place.ofUser "username" ∈ places
  · -- with the malformed `username` there is no login name, without it there is the `name`
    obtain ⟨shape, hshape, value, hvalue, hfits⟩ := h _ hmem
    obtain rfl := Option.some.inj hshape
    have hhidden : (some value).bind Tree.string? = none := string?_eq_none hfits
    rw [if_pos hmem, Option.none_or, hname, Option.mem_def.mp hvalue, Option.some_or, hhidden,
      Option.getD_none, and_iff_right hmem]
    exact text_eq_empty_iff
  · refine iff_of_true ?_ fun hboth ↦ hmem hboth.1
    rw [if_neg hmem]
    cases (Place.ofUser "username").value? payload with
    | none => exact congrArg (Option.getD · "") hname
    | some value => rfl

/-- **Malformed members count as missing, unless one is a `username` that hides a `name`.** The run
of a payload with a name is the same without any of the malformed data in it, but for the login
name, and that is the same unless a malformed `username` is left out where `name` is a text that is
not empty. -/
theorem ofPayload?_without_eq_iff {name : String} (hname : textField? payload "name" = some name)
    (h : ∀ place ∈ places, place.IsMalformed payload) :
    (ofPayload? (without payload places) = ofPayload? payload ↔
      ¬(.ofUser "username" ∈ places ∧ ∃ text,
        (Place.ofUser "name").value? payload = some (.string text) ∧ text ≠ "")) ∧
    ∃ run login, ofPayload? payload = some run ∧
      ofPayload? (without payload places) = some { run with user.name := login } := by
  obtain ⟨run, hrun⟩ := exists_ofPayload? hname
  have huser : run.user = ⟨login payload, photoUrl payload⟩ :=
    (members_of_ofPayload? hrun).1.trans (userOfPayload_eq payload)
  have hphoto : photoUrl (without payload places) = photoUrl payload :=
    congrArg (Option.getD · "") (text_without h "photoUrl" rfl)
  have hwithout : ofPayload? (without payload places)
      = some { run with user.name := login (without payload places) } := by
    rw [(agreesBesidesUser_without h).ofPayload?_eq, hrun, Option.map_some, userOfPayload_eq,
      hphoto, huser]
  refine ⟨?_, run, login (without payload places), hrun, hwithout⟩
  rw [← login_without_eq_iff h, hwithout, hrun, Option.some.injEq]
  constructor
  · intro heq
    have hlogin := congrArg (fun run ↦ run.user.name) heq
    rwa [huser] at hlogin
  · intro heq
    have hlogin : login payload = run.user.name := by rw [huser]
    rw [heq, hlogin]

/-- A payload in which nothing but the name is of its type. -/
def malformedPayload : Json := .object [
  ("config", .number (.int 5)), ("createdAt", .null), ("description", .bool true),
  ("heartbeatAt", .array []), ("host", .object []), ("id", .number (.int 7)),
  ("name", .string "r"), ("state", .null), ("summaryMetrics", .array [.object []]),
  ("tags", .array [.string "a", .null]),
  ("user", .object [("name", .bool false), ("photoUrl", .number (.int 1)), ("username", .null)])]

/-- The places of it at which something malformed stands. -/
def malformedPlaces : List Place :=
  [.member "config", .member "createdAt", .member "description", .member "heartbeatAt",
    .member "host", .member "id", .member "state", .member "summaryMetrics", .member "tags",
    .ofUser "name", .ofUser "photoUrl", .ofUser "username"]

/-- It delivers the run of a payload with the name alone. -/
theorem ofPayload?_without_malformedPlaces :
    without malformedPayload malformedPlaces
        = .object [("name", .string "r"), ("user", .object [])] ∧
      ofPayload? (without malformedPayload malformedPlaces) = ofPayload? malformedPayload := by
  have hname : textField? malformedPayload "name" = some "r" := rfl
  have hmalformed : ∀ place ∈ malformedPlaces, place.IsMalformed malformedPayload := by decide
  refine ⟨rfl, (ofPayload?_without_eq_iff hname hmalformed).1.mpr ?_⟩
  rintro ⟨-, text, htext, -⟩
  cases htext

/-- A payload in which a null `username` hides the login name. -/
def hiddenNamePayload : Json :=
  .object [("name", .string "r"), ("user", .object [("name", .string "n"), ("username", .null)])]

/-- Without the null its run has a login name. -/
theorem ofPayload?_without_ne_of_hiddenName :
    textField? hiddenNamePayload "name" = some "r" ∧
      (Place.ofUser "username").IsMalformed hiddenNamePayload ∧
      (ofPayload? hiddenNamePayload).map (·.user) = some ⟨"", ""⟩ ∧
      (ofPayload? (without hiddenNamePayload [.ofUser "username"])).map (·.user)
        = some ⟨"n", ""⟩ ∧
      ofPayload? (without hiddenNamePayload [.ofUser "username"])
        ≠ ofPayload? hiddenNamePayload := by
  refine ⟨rfl, by decide, rfl, rfl, fun heq ↦ ?_⟩
  have huser := congrArg (Option.map (·.user)) heq
  exact absurd (User.mk.inj (Option.some.inj huser)).1 (by decide)

end Run

end RunQuery

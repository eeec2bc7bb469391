import RunQuery.Decimal.Reader
import RunQuery.Instant
import RunQuery.Unicode.Class

/-!
# Reading timestamps

Two notations of an instant.

* The *standard* one: date and time in fixed widths with `T`, `t` or a blank between them, an
  optional fraction of any number of digits, and a zone, which is `Z` or an offset in hours and
  minutes.
* The *loose* one, for universal time: fields of one or two digits, white space before any of them
  and between date and time, a year with an optional sign, an optional fraction, and no zone.

In both, digits of the fraction beyond the ninth do not count.
-/

namespace RunQuery.Timestamp

/-! ## Parts -/

/-- The rest of a text that begins with `c`. -/
def skip? (c : Char) : List Char → Option (List Char)
  | [] => none
  | d :: rest => if c = d then some rest else none

/-- A number of at least one and at most `width` digits at the front of a text. -/
def number? (width : Nat) (text : List Char) : Option (Nat × List Char) :=
  let ds := (text.takeWhile Decimal.isDigit).take width
  if ds.isEmpty then none else some (Decimal.ofDigits ds, text.drop ds.length)

/-- A number of exactly `width` digits at the front of a text. -/
def fixed? (width : Nat) (text : List Char) : Option (Nat × List Char) :=
  let ds := text.take width
  if ds.length = width ∧ ds.all Decimal.isDigit then some (Decimal.ofDigits ds, text.drop width)
  else none

/-- The nanoseconds that the digits after a decimal point write. -/
def nanosOfDigits (digits : List Char) : Nat :=
  let ds := digits.take 9
  Decimal.ofDigits ds * Nat.pow 10 (9 - ds.length)

/-- An optional fraction of a second at the front of a text, in nanoseconds. -/
def fraction? : List Char → Option (Nat × List Char)
  | '.' :: rest =>
    let ds := rest.takeWhile Decimal.isDigit
    if ds.isEmpty then none else some (nanosOfDigits ds, rest.dropWhile Decimal.isDigit)
  | text => some (0, text)

/-! ## Instants of read fields -/

/-- The least and the greatest year of an instant. -/
def yearRange : Int × Int := (-262143, 262142)

/-- The instant of a date and a time of day that lies `offset` minutes before universal time. The
sixtieth second of a minute is a leap second. -/
def instant? (date : Date) (hour minute second nano : Nat) (offset : Int) : Option Instant :=
  if h : hour < 24 ∧ minute < 60 ∧ second ≤ 60 ∧ nano < nanosPerSecond then
    if date.isValid && yearRange.1 ≤ date.year && date.year ≤ yearRange.2 then
      let minutes := date.toNumber * 1440 + (hour * 60 + minute : Nat) - offset
      -- both round down, so the time of day is no less than zero before 1970 too
      let ofDay := (minutes % 1440).toNat
      have hday : ofDay < 1440 := by omega
      if hs : second = 60 then
        some ⟨minutes / 1440, ofDay * 60 + 59, nano + nanosPerSecond, by omega, by omega,
          fun _ ↦ by omega⟩
      else
        some ⟨minutes / 1440, ofDay * 60 + second, nano, by omega, by omega, fun _ ↦ by omega⟩
    else none
  else none

/-! ## The standard notation -/

/-- A zone: its distance from universal time, in minutes. Any of the two minus signs will do. -/
def zone? : List Char → Option (Int × List Char)
  | 'Z' :: rest => some (0, rest)
  | 'z' :: rest => some (0, rest)
  | sign :: rest => do
    let negative ←
      if sign = '+' then some false
      else if sign = '-' ∨ sign = '\u2212' then some true
      else none
    let (hours, rest) ← fixed? 2 rest
    let (minutes, rest) ← fixed? 2 (← skip? ':' rest)
    if hours < 24 ∧ minutes < 60 then
      let distance : Int := (hours * 60 + minutes : Nat)
      return (if negative then -distance else distance, rest)
    else none
  | [] => none

/-- May this character stand between date and time? -/
def isSeparator (c : Char) : Bool := c == 'T' || c == 't' || c == ' '

/-- The instant that a text gives in the standard notation. -/
def standard? (text : List Char) : Option Instant := do
  let (year, rest) ← fixed? 4 text
  let (month, rest) ← fixed? 2 (← skip? '-' rest)
  let (day, rest) ← fixed? 2 (← skip? '-' rest)
  let separator ← rest.head?
  if !isSeparator separator then none
  else
    let (hour, rest) ← fixed? 2 rest.tail
    let (minute, rest) ← fixed? 2 (← skip? ':' rest)
    let (second, rest) ← fixed? 2 (← skip? ':' rest)
    let (nano, rest) ← fraction? rest
    let (offset, rest) ← zone? rest
    if rest.isEmpty then instant? ⟨year, month, day⟩ hour minute second nano offset else none

/-! ## The loose notation -/

/-- A text without the white space before it. -/
def trimStart (text : List Char) : List Char := text.dropWhile Unicode.isWhiteSpace

/-- A year: up to four digits, or any number of digits after a sign. -/
def looseYear? (text : List Char) : Option (Int × List Char) :=
  match trimStart text with
  | '-' :: rest => (number? rest.length rest).map fun (n, rest) ↦ (-(n : Int), rest)
  | '+' :: rest => (number? rest.length rest).map fun (n, rest) ↦ (n, rest)
  | rest => (number? 4 rest).map fun (n, rest) ↦ (n, rest)

/-- A field of one or two digits. -/
def looseField? (text : List Char) : Option (Nat × List Char) := number? 2 (trimStart text)

/-- The instant that a text gives in the loose notation. -/
def loose? (text : List Char) : Option Instant := do
  let (year, rest) ← looseYear? text
  let (month, rest) ← looseField? (← skip? '-' rest)
  let (day, rest) ← looseField? (← skip? '-' rest)
  let (hour, rest) ← looseField? rest
  let (minute, rest) ← looseField? (← skip? ':' rest)
  let (second, rest) ← looseField? (← skip? ':' rest)
  let (nano, rest) ← fraction? rest
  if rest.isEmpty then instant? ⟨year, month, day⟩ hour minute second nano 0 else none

/-! ## Timestamps of payloads -/

/-- Does the text end in a zone, as far as its signs tell? It does if it ends in `Z`, or if its
last sign comes after its first `T`. -/
def hasZone (text : List Char) : Bool :=
  match text.getLast? with
  | some 'Z' => true
  | some 'z' => true
  | _ =>
    -- the hyphens of the date stand before the `T`, and would tell nothing without one
    text.contains 'T' &&
      (text.dropWhile (· != 'T')).any fun c ↦ c == '+' || c == '-'

/-- The instant that a payload's text gives. Texts without a zone are in universal time; what is
not in the standard notation may be in the loose one. -/
def read? (text : String) : Option Instant :=
  let chars := text.toList
  let zoned := if hasZone chars then chars else chars ++ ['Z']
  (standard? zoned).or (loose? chars)

end RunQuery.Timestamp

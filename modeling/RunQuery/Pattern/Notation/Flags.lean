import RunQuery.Pattern.Basic
import RunQuery.Pattern.Classes

/-!
# Flags

The flags under which a pattern is read, and what they change: `i` ignores case, `m` lets `^` and
`$` hold at lines, `s` lets the point take line ends, `R` lets carriage returns end lines, `U` swaps
the operators that prefer many rounds with those that prefer few, and `x` ignores blanks and
comments in the pattern. Without `u` classes are those of ASCII, and whatever could match part of a
character is refused.
-/

namespace RunQuery.Pattern

open Unicode

/-- The flags in force. -/
structure Flags where
  /-- Ignore case. -/
  caseless : Bool := false
  /-- `^` and `$` hold at every line. -/
  multiLine : Bool := false
  /-- The point takes line ends. -/
  dotAll : Bool := false
  /-- Carriage returns end lines. -/
  crlf : Bool := false
  /-- Repetition prefers few rounds. -/
  reluctant : Bool := false
  /-- Blanks and comments in the pattern do not count. -/
  spaced : Bool := false
  /-- Classes are those of all scripts. -/
  unicode : Bool := true

namespace Flags

/-- A set under the case rule in force. -/
def fold (flags : Flags) (s : Ranges) : Ranges :=
  if !flags.caseless then s
  else if flags.unicode then s.caseless
  else s.asciiCaseless

/-- The complement of a set. Without `u` it would hold parts of characters. -/
def compl? (flags : Flags) (s : Ranges) : Option Ranges :=
  if flags.unicode then some s.compl else none

/-- A set or its complement. -/
def signed? (flags : Flags) (negated : Bool) (s : Ranges) : Option Ranges :=
  if negated then flags.compl? s else some s

/-- A class of all scripts, or of ASCII, or its complement. -/
def class? (flags : Flags) (unicode ascii : Ranges) (negated : Bool) : Option Ranges :=
  flags.signed? negated (if flags.unicode then unicode else ascii)

/-- An edge of a word. -/
def edge (flags : Flags) (e : WordEdge) : Assertion := .word e !flags.unicode

/-- A single character, under the case rule in force. -/
def literal (flags : Flags) (c : Char) : Pattern :=
  if c.toNat < 0x80 || flags.unicode then ofSet (flags.fold [.single c.toNat]) else chars [c]

/-- The characters that the point stands for. -/
def dot? (flags : Flags) : Option Ranges :=
  if flags.dotAll then flags.compl? []
  else if flags.crlf then flags.compl? [.single '\n'.toNat, .single '\r'.toNat]
  else flags.compl? [.single '\n'.toNat]

/-- What `^` asserts. -/
def begins (flags : Flags) : Assertion :=
  if flags.multiLine then .lineStart flags.crlf else .textStart

/-- What `$` asserts. -/
def ends (flags : Flags) : Assertion :=
  if flags.multiLine then .lineEnd flags.crlf else .textEnd

/-- One change of a flag. -/
def set? (flags : Flags) (c : Char) (on : Bool) : Option Flags :=
  match c with
  | 'i' => some { flags with caseless := on }
  | 'm' => some { flags with multiLine := on }
  | 's' => some { flags with dotAll := on }
  | 'R' => some { flags with crlf := on }
  | 'x' => some { flags with spaced := on }
  | 'u' => some { flags with unicode := on }
  | 'U' => some { flags with reluctant := on }
  | _ => none

/-! ## Blanks -/

/-- A pattern without the blanks and comments at its front. -/
def dropSpace : (inComment : Bool) → List Char → List Char
  | _, [] => []
  | true, c :: rest => if c = '\n' then dropSpace false rest else dropSpace true rest
  | false, c :: rest =>
    if isWhiteSpace c then dropSpace false rest
    else if c = '#' then dropSpace true rest
    else c :: rest

/-- A pattern without what does not count at its front. -/
def skip (flags : Flags) (text : List Char) : List Char :=
  if flags.spaced then dropSpace false text else text

theorem length_dropSpace_le (inComment : Bool) (text : List Char) :
    (dropSpace inComment text).length ≤ text.length := by
  fun_induction dropSpace inComment text <;> simp only [List.length_cons, Nat.le_refl] <;> omega

theorem length_skip_le (flags : Flags) (text : List Char) :
    (flags.skip text).length ≤ text.length := by
  unfold skip
  split
  · exact length_dropSpace_le false text
  · exact Nat.le_refl _

/-- What stands up to a closing brace, without blanks, and what follows the brace. -/
def braced? (flags : Flags) (text : List Char) : Option (List Char × List Char) :=
  match h : flags.skip text with
  | [] => none
  | c :: rest =>
    have : rest.length < text.length := by
      have := length_skip_le flags text
      rw [h, List.length_cons] at this
      exact this
    if c = '\x7d' then some ([], rest)
    else (braced? flags rest).map fun (name, after) ↦ (c :: name, after)
termination_by text.length

/-- The characters of a run that pass a test, blanks between them skipped, and what follows. -/
def run (flags : Flags) (test : Char → Bool) (text : List Char) : List Char × List Char :=
  match text with
  | [] => ([], [])
  | c :: rest =>
    if test c then
      have : (flags.skip rest).length < (c :: rest).length :=
        Nat.lt_succ_of_le (length_skip_le flags rest)
      let (cs, after) := run flags test (flags.skip rest)
      (c :: cs, after)
    else ([], c :: rest)
termination_by text.length
decreasing_by assumption

end Flags

end RunQuery.Pattern

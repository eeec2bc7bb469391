import RunQuery.Unicode.Age
import RunQuery.Unicode.Boundary
import RunQuery.Unicode.Case
import RunQuery.Unicode.Category
import RunQuery.Unicode.Listed
import RunQuery.Unicode.Script

/-!
# Properties by name

The sets of characters that patterns call by name: by a property that a character has or lacks, by a
general category, by a script, or by a property and the value that it has. Many properties are
defined by others; the definitions are kept as terms, and a set is computed when it is asked for.

Names are compared in their loose spelling.
-/

namespace RunQuery.Unicode

/-- How a set of characters is built from others. -/
inductive SetTerm where
  /-- The characters of a listed property. -/
  | listed (name : String)
  /-- The characters of some categories. -/
  | categories (cs : List Category)
  /-- The characters of a class for finding words. -/
  | wordClass (name : String)
  /-- The characters of a table. -/
  | table (t : String)
  /-- The characters that have another character as their lowercase letter. -/
  | lowercased
  /-- What is in one of two sets. -/
  | either (s t : SetTerm)
  /-- What is in the first set and not in the second. -/
  | except (s t : SetTerm)
  /-- What is not in a set. -/
  | other (s : SetTerm)

namespace SetTerm

def ranges : SetTerm → Ranges
  | listed name => Listed.ranges name
  | categories cs => Category.rangesOf cs
  | wordClass name => (NamedTable.find? Boundary.word name).getD []
  | table t => .ofTable t
  | lowercased => Ranges.normal <| (dottedCapitalI.toNat ::
      (lowercaseStretches.flatMap CaseStretch.members).filter fun n ↦
        !Additions.all.holds n).map .single
  | either s t => s.ranges.union t.ranges
  | except s t => s.ranges.diff t.ranges
  | other s => s.ranges.compl

/-- Any character. -/
def any : SetTerm := table "0-10FFFF"

def assigned : SetTerm := categories Category.all

/-- The lowercase letters and what counts as such. -/
def lowercase : SetTerm := either (categories [.ll]) (listed "olower")

/-- The uppercase letters and what counts as such. -/
def uppercase : SetTerm := either (categories [.lu]) (listed "oupper")

/-- The characters that have a case. -/
def cased : SetTerm := either (either lowercase uppercase) (categories [.lt])

/-- The characters that are parts of words as letters are. -/
def alphabetic : SetTerm :=
  either (either cased (categories [.lm, .lo, .nl])) (listed "oalpha")

/-- The characters that do not keep the case of a word from going on. -/
def caseIgnorable : SetTerm :=
  either (categories [.mn, .me, .cf, .lm, .sk])
    (either (wordClass "midletter") (either (wordClass "midnumlet") (wordClass "singlequote")))

/-- The characters that go on a grapheme cluster. -/
def graphemeExtend : SetTerm := either (categories [.mn, .me]) (listed "ogrext")

/-- The characters that can begin a grapheme cluster. -/
def graphemeBase : SetTerm :=
  except (except assigned (categories [.cc, .cf, .co, .zl, .zp])) graphemeExtend

/-- What is reserved for the notation of patterns. -/
def patternNotation : SetTerm := either (listed "patsyn") (listed "patws")

/-- The characters that can begin an identifier. -/
def idStart : SetTerm :=
  except (either (categories (.nl :: Category.letters)) (listed "oids")) patternNotation

/-- The characters that can go on an identifier. -/
def idContinue : SetTerm :=
  except (either idStart (either (categories [.mn, .mc, .nd, .pc]) (listed "oidc"))) patternNotation

/-- Characters that decompose into ones that cannot go on an identifier. -/
def unstable : SetTerm := table "37A 309B-309C FC5E-FC63 FDFA-FDFB FE70-FE7E/2"

/-- Characters that decompose into ones that cannot begin an identifier. -/
def unstableStart : SetTerm := either unstable (table "E33 EB3 FF9E-FF9F")

/-- The characters whose case can be changed. -/
def casemapped : SetTerm := either lowercased (either (listed "cwu") (listed "cwt"))

end SetTerm

/-- White space: the blanks, line ends and separators of the standard, and no joiners. -/
def whiteSpaceTable : String := "9-D 20 85 A0 1680 2000-200A 2028-2029 202F 205F 3000"

def definedProperties : List (List String × SetTerm) :=
  [(["lower", "lowercase"], .lowercase), (["upper", "uppercase"], .uppercase),
   (["cased"], .cased), (["alpha", "alphabetic"], .alphabetic),
   (["ci", "caseignorable"], .caseIgnorable), (["grext", "graphemeextend"], .graphemeExtend),
   (["grbase", "graphemebase"], .graphemeBase), (["ids", "idstart"], .idStart),
   (["idc", "idcontinue"], .idContinue), (["xids", "xidstart"], .except .idStart .unstableStart),
   (["xidc", "xidcontinue"], .except .idContinue .unstable),
   (["math"], .either (.categories [.sm]) (.listed "omath")),
   (["cwl", "changeswhenlowercased"], .lowercased),
   (["cwcm", "changeswhencasemapped"], .casemapped),
   (["space", "wspace", "whitespace"], .table whiteSpaceTable)]

def definedCategories : List (List String × SetTerm) :=
  [(["any"], .any), (["assigned"], .assigned), (["ascii"], .table "0-7F"),
   (["cn", "unassigned"], .other .assigned),
   (["c", "other"], .other (.except .assigned (.categories [.cc, .cf, .co])))]

/-- The loose spelling of a name: ASCII in lower case without blanks, hyphens and underscores, and
without the word `is` at its begin. What would be left of `isc` is the name of a category, so that
name stays as it is. -/
def looseName (name : String) : String :=
  let lower (c : Char) : Char := if 'A' ≤ c ∧ c ≤ 'Z' then Char.ofNat (c.toNat + 32) else c
  let loose (cs : List Char) : List Char :=
    (cs.filter fun c ↦ c.toNat < 0x80 && c != ' ' && c != '-' && c != '_').map lower
  match name.toList with
  | i :: s :: rest =>
    if lower i = 'i' ∧ lower s = 's' then
      if loose rest = ['c'] then "isc" else String.ofList (loose rest)
    else String.ofList (loose (i :: s :: rest))
  | cs => String.ofList (loose cs)

namespace Ranges

def ofBinary? (name : String) : Option Ranges :=
  match definedProperties.find? (·.1.contains name) with
  | some p => some p.2.ranges
  | none => NamedTable.find? Listed.properties name

/-- The set of a general category by its loose name. -/
def ofCategory? (name : String) : Option Ranges :=
  match definedCategories.find? (·.1.contains name) with
  | some p => some p.2.ranges
  | none => (Category.named.find? (·.1.contains name)).map fun p ↦ Category.rangesOf p.2

/-- The set that goes by a name alone: a property, a category or a script. -/
def ofName? (name : String) : Option Ranges :=
  let loose := looseName name
  (ofBinary? loose).orElse fun _ ↦ (ofCategory? loose).orElse fun _ ↦ Script.own? loose

/-- The set of the characters for which a property has a value. -/
def ofValue? (property value : String) : Option Ranges :=
  let value := looseName value
  match looseName property with
  | "gc" | "generalcategory" => ofCategory? value
  | "sc" | "script" => Script.own? value
  | "scx" | "scriptextensions" => Script.extended? value
  | "age" => Age.upTo? value
  | "gcb" | "graphemeclusterbreak" => NamedTable.find? Boundary.grapheme value
  | "wb" | "wordbreak" => NamedTable.find? Boundary.word value
  | "sb" | "sentencebreak" => NamedTable.find? Boundary.sentence value
  | _ => none

end Ranges

end RunQuery.Unicode

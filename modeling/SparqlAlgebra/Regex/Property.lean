import SparqlAlgebra.Regex.CharSet
import SparqlAlgebra.Text.AgeTable
import SparqlAlgebra.Text.Basic
import SparqlAlgebra.Text.BreakTable
import SparqlAlgebra.Text.CategoryTable
import SparqlAlgebra.Text.PropertyTable
import SparqlAlgebra.Text.ScriptExtensionTable
import SparqlAlgebra.Text.ScriptTable

/-!
# Named sets of characters

The sets that patterns name: properties of Unicode, by their name alone or with a value, the one-letter
classes, and the classes of POSIX. Names are compared without case and separators.
-/

namespace SparqlAlgebra

namespace Regex

namespace Property

/-- The value of a hexadecimal number. -/
def readHex (cs : List Char) : Nat :=
  cs.foldl (fun n c =>
    let d := if c.isDigit then c.toNat - 48 else if c.isLower then c.toNat - 87 else c.toNat - 55
    16 * n + d) 0

/-- Reads ranges such as `41-5A` and single code points, separated by white space. After `/2` a range stands
for every second code point. -/
def readRanges (s : String) : CharSet :=
  ⟨((Text.words s.toList).flatMap fun w =>
    let a := readHex (w.takeWhile (· != '-'))
    match w.dropWhile (· != '-') with
    | [] => [(a, a)]
    | _ :: b =>
      let last := readHex (b.takeWhile (· != '/'))
      if b.contains '/' then (List.range ((last - a) / 2 + 1)).map fun i => (a + 2 * i, a + 2 * i)
      else [(a, last)]).toArray⟩

/-- A set with its names. The set is read when it is first asked for. -/
structure Row where
  names : List String
  set : Thunk CharSet

/-- The rows of a table. -/
def rowsOf (table : List (List String × String)) : List Row :=
  table.map fun (names, ranges) => ⟨names, ⟨fun _ => readRanges ranges⟩⟩

/-- The table of binary properties. -/
def properties : List Row := rowsOf UnicodeTable.properties

/-- The table of general categories. -/
def categories : List Row := rowsOf UnicodeTable.categories

/-- The table of scripts. -/
def scripts : List Row := rowsOf UnicodeTable.scripts

/-- The sets of characters used with several scripts, by the short names of these. -/
def scriptExtensions : List Row := rowsOf UnicodeTable.scriptExtensions

/-- The table of ages. -/
def ages : List Row := rowsOf UnicodeTable.ages

/-- The table of breaks between graphemes. -/
def graphemeBreaks : List Row := rowsOf UnicodeTable.graphemeBreaks

/-- The table of breaks between words. -/
def wordBreaks : List Row := rowsOf UnicodeTable.wordBreaks

/-- The table of breaks between sentences. -/
def sentenceBreaks : List Row := rowsOf UnicodeTable.sentenceBreaks

/-- The set of the row that has the name. -/
def find? (rows : List Row) (name : String) : Option CharSet :=
  (rows.find? fun row => row.names.contains name).map fun row => row.set.get

/-- Unites the categories with the short names. -/
def categoriesOf (names : List String) : CharSet :=
  .unions ((categories.filter fun row => names.contains (row.names.headD "")).map fun row => row.set.get)

/-- Groups of general categories by their names. -/
def categoryGroups : List (List String × List String) := [
  (["l", "letter"], ["lu", "ll", "lt", "lm", "lo"]),
  (["lc", "casedletter"], ["lu", "ll", "lt"]),
  (["m", "mark", "combiningmark"], ["mn", "mc", "me"]),
  (["n", "number"], ["nd", "nl", "no"]),
  (["p", "punctuation", "punct"], ["pc", "pd", "ps", "pe", "pi", "pf", "po"]),
  (["s", "symbol"], ["sm", "sc", "sk", "so"]),
  (["z", "separator"], ["zs", "zl", "zp"])]

/-- The sets of the groups. -/
def groups : List Row := categoryGroups.map fun (names, parts) => ⟨names, ⟨fun _ => categoriesOf parts⟩⟩

/-- A general category or a group of them. The surrogates have no category of their own; they lie in the
group of the others. -/
def category? (name : String) : Option CharSet :=
  if name = "any" then some .all
  else if name = "ascii" then some ⟨#[(0, 0x7F)]⟩
  else if name = "assigned" then (find? categories "cn").map .complement
  else if name = "c" ∨ name = "other" then
    some (.union (categoriesOf ["cc", "cf", "co", "cn"]) ⟨#[(0xD800, 0xDFFF)]⟩)
  else (find? groups name).or (find? categories name)

/-- The characters of a script. -/
def script? (name : String) : Option CharSet := find? scripts name

/-- The characters used with a script: those listed with it, and those that belong to it and are not
listed. -/
def scriptExtension? (name : String) : Option CharSet :=
  (scripts.find? fun row => row.names.contains name).map fun row =>
    let short := row.names.headD ""
    let listed := scriptExtensions.filter fun e => e.names.contains short
    .union (.diff row.set.get (.unions (scriptExtensions.map fun e => e.set.get)))
      (.unions (listed.map fun e => e.set.get))

/-- The characters of all versions up to the named one. -/
def age? (name : String) : Option CharSet :=
  let later := ages.dropWhile fun row => !row.names.contains name
  if later.isEmpty then none
  else some (.unions ((ages.take (ages.length - later.length + 1)).map fun row => row.set.get))

/-- A set by its name alone: a property with two values, a general category or a script. -/
def named? (name : String) : Option CharSet :=
  match find? properties name with
  | some s => some s
  | none => (category? name).or (script? name)

/-- A set by the name of a property and one of its values. -/
def valued? (property value : String) : Option CharSet :=
  match property with
  | "gc" | "generalcategory" => category? value
  | "sc" | "script" => script? value
  | "scx" | "scriptextensions" => scriptExtension? value
  | "age" => age? value
  | "gcb" | "graphemeclusterbreak" => find? graphemeBreaks value
  | "wb" | "wordbreak" => find? wordBreaks value
  | "sb" | "sentencebreak" => find? sentenceBreaks value
  | _ => none

/-- A name as names are compared: in lower case, without a leading `is`, and without spaces, underscores,
hyphens and all that is not ASCII. Only `isc` keeps its beginning. -/
def normalName (cs : List Char) : String :=
  let fold (cs : List Char) : List Char :=
    (cs.filter fun c => c.toNat < 0x80 && c != ' ' && c != '_' && c != '-').map Char.toLower
  match cs with
  | i :: s :: rest =>
    if i.toLower = 'i' ∧ s.toLower = 's' then
      if fold rest = ['c'] then "isc" else String.ofList (fold rest)
    else String.ofList (fold cs)
  | cs => String.ofList (fold cs)

/-- What stands in the braces of a property: its set, and whether the set is to be complemented. A name and
a value are separated by `!=`, `:` or `=`, which are looked for in this order. -/
def ofText? (cs : List Char) : Option (CharSet × Bool) :=
  match Text.splitAtFirst ['!', '='] cs with
  | some (p, v) => (valued? (normalName p) (normalName v)).map (·, true)
  | none =>
    match (Text.splitAtFirst [':'] cs).or (Text.splitAtFirst ['='] cs) with
    | some (p, v) => (valued? (normalName p) (normalName v)).map (·, false)
    | none => (named? (normalName cs)).map (·, false)

end Property

namespace CharSet

open Property

/-- Decimal digits. -/
def digit : CharSet := (find? categories "nd").getD empty

/-- White space. -/
def space : CharSet := (find? properties "whitespace").getD empty

/-- The letters, and what counts as one. -/
def alphabetic : CharSet := (find? properties "alphabetic").getD empty

/-- The characters of words: letters, marks, digits, connectors and joiners. -/
def word : CharSet :=
  .unions [alphabetic, (find? properties "joincontrol").getD empty,
    categoriesOf ["mn", "mc", "me", "nd", "pc"]]

/-- The digits of ASCII. -/
def asciiDigit : CharSet := ⟨#[(0x30, 0x39)]⟩

/-- The white space of ASCII. -/
def asciiSpace : CharSet := ⟨#[(0x09, 0x0D), (0x20, 0x20)]⟩

/-- The characters of words in ASCII. -/
def asciiWord : CharSet := ⟨#[(0x30, 0x39), (0x41, 0x5A), (0x5F, 0x5F), (0x61, 0x7A)]⟩

/-- The bracketed class names of POSIX. -/
def posix? (name : String) : Option CharSet :=
  (List.lookup name [
    ("alnum", #[(0x30, 0x39), (0x41, 0x5A), (0x61, 0x7A)]),
    ("alpha", #[(0x41, 0x5A), (0x61, 0x7A)]),
    ("ascii", #[(0, 0x7F)]),
    ("blank", #[(0x09, 0x09), (0x20, 0x20)]),
    ("cntrl", #[(0, 0x1F), (0x7F, 0x7F)]),
    ("digit", #[(0x30, 0x39)]),
    ("graph", #[(0x21, 0x7E)]),
    ("lower", #[(0x61, 0x7A)]),
    ("print", #[(0x20, 0x7E)]),
    ("punct", #[(0x21, 0x2F), (0x3A, 0x40), (0x5B, 0x60), (0x7B, 0x7E)]),
    ("space", #[(0x09, 0x0D), (0x20, 0x20)]),
    ("upper", #[(0x41, 0x5A)]),
    ("word", #[(0x30, 0x39), (0x41, 0x5A), (0x5F, 0x5F), (0x61, 0x7A)]),
    ("xdigit", #[(0x30, 0x39), (0x41, 0x46), (0x61, 0x66)])]).map CharSet.mk

/-- Letters and numbers as they may stand in names: those that the classes hold, and those that later
versions of Unicode have added. -/
def nameLetter : CharSet :=
  .union alphabetic (readRanges
    "88F C5C CDC A7CE-A7CF A7D2 A7D4 A7F1 10940-10959 10EC5-10EC7 10EFA-10EFB 11B60-11B67 11DB0-11DDB
    16EA0-16EB8 16EBB-16ED3 16FF2-16FF6 187F8-187FF 18D09-18D1E 18D80-18DF2 1E6C0-1E6DE 1E6E0-1E6F5
    1E6FE-1E6FF 2B73A-2B73F 2CEA2-2CEAD 323B0-33479")

/-- The numbers that a name may have behind its first character. -/
def nameNumber : CharSet :=
  .union (categoriesOf ["nd", "nl", "no"]) (readRanges "11DE0-11DE9 16FF4-16FF6")

end CharSet

end Regex

end SparqlAlgebra

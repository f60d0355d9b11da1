import SparqlAlgebra.Digest
import SparqlAlgebra.Number.Digits
import SparqlAlgebra.Regex.Replace
import SparqlAlgebra.Text.Basic
import SparqlAlgebra.Text.Case
import SparqlAlgebra.Text.Percent
import SparqlAlgebra.Value.Literal

/-!
# Functions on texts

Functions that take plain strings or texts in a language. A function of two texts is defined if both are
plain, if both are in the same language, or if only the first is in a language. Positions count characters
from one.
-/

namespace SparqlAlgebra

/-- A text that may be in a language. -/
structure LocalText where
  /-- The text itself. -/
  value : String
  /-- The language tag, absent from a plain string. -/
  language : Option String
  deriving DecidableEq

namespace LocalText

/-- The text of a literal that is a string, with or without a language. -/
def ofLiteral? : Literal → Option LocalText
  | .tagged s l => some ⟨s, some l⟩
  | .typed s d => if d = Xsd.string then some ⟨s, none⟩ else none

/-- The text of a term, if it is such a literal. -/
def ofTerm? : Term → Option LocalText
  | .literal l => ofLiteral? l
  | _ => none

/-- A text without a language. -/
def plain (s : String) : LocalText := ⟨s, none⟩

/-- A text as a literal. -/
def toLiteral (t : LocalText) : Literal :=
  match t.language with
  | some l => .tagged t.value l
  | none => .string t.value

/-- A text as a term. -/
def toTerm (t : LocalText) : Term := .literal t.toLiteral

/-- The texts that functions take are plain strings and texts in a language, and no other terms. -/
theorem ofTerm?_eq_some_iff {t : Term} {a : LocalText} : ofTerm? t = some a ↔ t = a.toTerm := by
  obtain ⟨value, _ | language⟩ := a
  · cases t with
    | literal l => cases l <;> simp [ofTerm?, ofLiteral?, toTerm, toLiteral, Literal.string, and_comm]
    | _ => simp [ofTerm?, toTerm]
  · cases t with
    | literal l => cases l <;> simp [ofTerm?, ofLiteral?, toTerm, toLiteral]
    | _ => simp [ofTerm?, toTerm]

/-- A text is read back from its term. -/
@[simp] theorem ofTerm?_toTerm (a : LocalText) : ofTerm? a.toTerm = some a := ofTerm?_eq_some_iff.2 rfl

/-- Another text in the same language. -/
def withValue (t : LocalText) (s : String) : LocalText := { t with value := s }

/-- The characters of a text. -/
def chars (t : LocalText) : List Char := t.value.toList

/-- Whether a function of the two texts is defined. -/
def isCompatible (a b : LocalText) : Bool :=
  match a.language, b.language with
  | _, none => true
  | some l, some m => sameLanguage l m
  | none, some _ => false

/-- Number of characters. -/
def length (t : LocalText) : Nat := t.chars.length

/-- How many of the positions from one to `count` lie before an integral bound. -/
def positionsBefore (count : Nat) (bound : Double) : Nat :=
  match bound with
  | .nan _ => 0
  | .infinite neg => if neg then 0 else count
  | _ => min count ((bound.truncate?.getD 0) - 1).toNat

/-- The characters from the position `start` on, of the given number or up to the end. The numbers are rounded
to integers, halves away from zero. -/
def window (t : LocalText) (start : Double) (length : Option Double) : LocalText :=
  let start := start.roundHalfAway
  let first := positionsBefore t.length start
  let last := match length with
    | some n => positionsBefore t.length (start + n.roundHalfAway)
    | none => if start.isNaN then 0 else t.length
  t.withValue (String.ofList ((t.chars.take last).drop first))

/-- In upper case, with the same language. -/
def toUpper (t : LocalText) : LocalText := t.withValue (Text.toUpper t.value)

/-- In lower case, with the same language. -/
def toLower (t : LocalText) : LocalText := t.withValue (Text.toLower t.value)

/-- Whether the characters of one text start with those of another one. Languages do not matter here. -/
def startsWith (a b : LocalText) : Bool := b.chars.isPrefixOf a.chars

/-- Whether they end with them. -/
def endsWith (a b : LocalText) : Bool := b.chars.isSuffixOf a.chars

/-- Whether they have them somewhere. -/
def contains (a b : LocalText) : Bool := Text.occursIn b.chars a.chars

/-- What stands before the first occurrence of the second text, or the empty plain string. -/
def before (a b : LocalText) : LocalText :=
  match Text.splitAtFirst b.chars a.chars with
  | some (front, _) => a.withValue (String.ofList front)
  | none => plain ""

/-- What stands after the first occurrence of the second text, or the empty plain string. -/
def after (a b : LocalText) : LocalText :=
  match Text.splitAtFirst b.chars a.chars with
  | some (_, back) => a.withValue (String.ofList back)
  | none => plain ""

/-- The language that all texts share. -/
def commonLanguage : List LocalText → Option String
  | [] => none
  | t :: ts => if ts.all fun u => u.language == t.language then t.language else none

/-- All texts one after another, in the language that they share. -/
def concat (ts : List LocalText) : LocalText :=
  ⟨String.join (ts.map (·.value)), commonLanguage ts⟩

end LocalText

namespace Text

/-- Characters with the letters of the ASCII alphabet in lower case. -/
def toAsciiLower (cs : List Char) : List Char := cs.map Char.toLower

/-- Whether a language tag lies in a language range: a whole tag, the beginning of one up to a hyphen, or
an asterisk for every tag that is not empty. -/
def tagInRange (tag range : String) : Bool :=
  let tag := toAsciiLower tag.toList
  let range := toAsciiLower range.toList
  if range = ['*'] then !tag.isEmpty
  else tag == range || (range ++ ['-']).isPrefixOf tag

/-- One character of a label that is made of a text: letters and digits stand for themselves, all others
are written as an underscore and their code point. -/
def labelChar (c : Char) : List Char :=
  if c.isAlphanum then [c] else '_' :: Nat.toDigits 16 c.toNat

/-- The label of the blank node of a text. -/
def toLabel (s : String) : String := String.ofList ('b' :: s.toList.flatMap labelChar)

/-- The hexadecimal digest of a text. -/
def hexDigest (digest : List UInt8 → List UInt8) (s : String) : String :=
  Digest.toHex (digest s.toUTF8.toList)

end Text

end SparqlAlgebra

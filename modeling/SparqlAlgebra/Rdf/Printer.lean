import SparqlAlgebra.Rdf.Vocabulary

/-!
# N-Triples text of terms

IRIs in angle brackets, labels after `_:`, and quoted literals with their language or datatype. The
datatype of a plain string is not written.
-/

namespace SparqlAlgebra

/-- The lower-case hexadecimal digits of a number, padded with zeros to at least `n` digits. -/
def lowerHex (n v : Nat) : List Char :=
  let ds := Nat.toDigits 16 v
  List.replicate (n - ds.length) '0' ++ ds

/-- The same with upper-case digits. -/
def upperHex (n v : Nat) : List Char := (lowerHex n v).map Char.toUpper

namespace QuotedText

/-- How one character is written between quotation marks. -/
def encodeChar (c : Char) : List Char :=
  if c = '\x08' then ['\\', 'b']
  else if c = '\t' then ['\\', 't']
  else if c = '\n' then ['\\', 'n']
  else if c = '\x0c' then ['\\', 'f']
  else if c = '\r' then ['\\', 'r']
  else if c = '"' then ['\\', '"']
  else if c = '\\' then ['\\', '\\']
  else if c.toNat < 0x20 ∨ c.toNat = 0x7f then '\\' :: 'u' :: upperHex 4 c.toNat
  else [c]

/-- A text between quotation marks. -/
def encode (s : String) : String :=
  String.ofList ('"' :: s.toList.flatMap encodeChar ++ ['"'])

end QuotedText

namespace Iri

/-- An IRI between angle brackets. -/
def toText (i : Iri) : String := "<" ++ i.text ++ ">"

end Iri

namespace BlankNode

/-- A blank node with its label. -/
def toText (b : BlankNode) : String := "_:" ++ b.label

end BlankNode

namespace Variable

/-- A variable with its question mark. -/
def toText (v : Variable) : String := "?" ++ v.name

end Variable

namespace Literal

/-- A literal in quotes, with its datatype or language where it is not a plain string. -/
def toText : Literal → String
  | .typed s d => if d = Xsd.string then QuotedText.encode s else QuotedText.encode s ++ "^^" ++ d.toText
  | .tagged s l => QuotedText.encode s ++ "@" ++ l

end Literal

namespace Term

/-- A term as it is written. -/
def toText : Term → String
  | .iri i => i.toText
  | .blank b => b.toText
  | .literal l => l.toText

end Term

namespace Resource

/-- A resource as it is written. -/
def toText (r : Resource) : String := r.toTerm.toText

end Resource

namespace Triple

/-- A triple as it is written: its terms with blanks between them. -/
def toText (t : Triple) : String :=
  t.subject.toText ++ " " ++ t.predicate.toText ++ " " ++ t.object.toText

end Triple

end SparqlAlgebra

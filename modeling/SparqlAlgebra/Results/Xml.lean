import SparqlAlgebra.Results.Table

/-!
# Results in XML

An element with a head, which lists the variables, and either a truth value or the rows. White space at the
ends of a literal is written by character references, so that a reader that trims text keeps it.
-/

namespace SparqlAlgebra

namespace XmlResults

/-- How one character is written in text and in attributes. -/
def encodeChar (c : Char) : List Char :=
  if c = '<' then "&lt;".toList
  else if c = '>' then "&gt;".toList
  else if c = '&' then "&amp;".toList
  else if c = '\'' then "&apos;".toList
  else if c = '"' then "&quot;".toList
  else [c]

/-- Characters with the special ones escaped. -/
def encode (cs : List Char) : List Char := cs.flatMap encodeChar

/-- Whether a character is white space in XML. -/
def isSpace (c : Char) : Bool := c == '\t' || c == '\n' || c == '\r' || c == ' '

/-- The reference to a character. -/
def reference (c : Char) : List Char := "&#".toList ++ (toString c.toNat).toList ++ [';']

/-- A text whose white space at the end is written by references. -/
def encodeEnd (cs : List Char) : List Char :=
  let tail := cs.reverse.takeWhile isSpace
  encode (cs.take (cs.length - tail.length)) ++ tail.reverse.flatMap reference

/-- A text whose white space at both ends is written by references. -/
def encodeEnds (cs : List Char) : List Char :=
  (cs.takeWhile isSpace).flatMap reference ++ encodeEnd (cs.dropWhile isSpace)

/-- A text with its special characters escaped. -/
def text (s : String) : String := String.ofList (encode s.toList)

/-- A text whose special characters and white space at the ends are escaped. -/
def paddedText (s : String) : String := String.ofList (encodeEnds s.toList)

/-- A start tag with at most one attribute. -/
def startTag (name : String) : Option (String × String) → String
  | none => "<" ++ name ++ ">"
  | some (key, value) => "<" ++ name ++ " " ++ key ++ "=\"" ++ text value ++ "\">"

/-- An element whose content is written already. -/
def element (name : String) (attr : Option (String × String)) (content : String) : String :=
  startTag name attr ++ content ++ "</" ++ name ++ ">"

/-- The element of a term. -/
def term : Term → String
  | .iri i => element "uri" none (text i.text)
  | .blank b => element "bnode" none (text b.label)
  | .literal (.tagged s l) => element "literal" (some ("xml:lang", l)) (paddedText s)
  | .literal (.typed s d) =>
    element "literal" (if d = Xsd.string then none else some ("datatype", d.text)) (paddedText s)

/-- The whole document. -/
def document (content : String) : String :=
  "<?xml version=\"1.0\"?>" ++
    element "sparql" (some ("xmlns", "http://www.w3.org/2005/sparql-results#")) content

/-- The head, which names the columns. -/
def head (vs : List Variable) : String :=
  element "head" none (String.join (vs.map fun v => "<variable name=\"" ++ text v.name ++ "\"/>"))

/-- The document of a truth value. -/
def boolean (b : Bool) : String :=
  document (head [] ++ element "boolean" none (if b then "true" else "false"))

/-- The element of a row. -/
def row (bindings : List (Variable × Term)) : String :=
  element "result" none
    (String.join (bindings.map fun (v, x) => element "binding" (some ("name", v.name)) (term x)))

/-- The document of a table. -/
def table (t : ResultTable) : String :=
  document
    (head t.vars ++ element "results" none (String.join (t.rows.map fun r => row (t.bindings r))))

end XmlResults

end SparqlAlgebra

import SparqlAlgebra.Results.Table

/-!
# Results as separated values

One line of cells for the variables and one for each row. With commas the cells hold bare values, quoted
where they would be ambiguous; with tabs they hold terms, numbers and truth values in their short form where
there is one.
-/

namespace SparqlAlgebra

/-- A line of cells. -/
def SeparatedValues.line (separator : String) (cells : List String) (ending : String) : String :=
  String.intercalate separator cells ++ ending

namespace CommaSeparated

/-- A value that is quoted if it holds a quotation mark, a comma or the end of a line. -/
def value (s : String) : String :=
  if s.toList.any fun c => c == '"' || c == ',' || c == '\n' || c == '\r' then
    String.ofList ('"' :: s.toList.flatMap (fun c => if c = '"' then ['"', '"'] else [c]) ++ ['"'])
  else s

/-- A term as a value without marks of its kind. -/
def term : Term → String
  | .iri i => i.text
  | .blank b => b.toText
  | .literal l => value l.text

/-- The document of a table. -/
def table (t : ResultTable) : String :=
  let line (cells : List String) := SeparatedValues.line "," cells "\r\n"
  String.join
    (line (t.vars.map (·.name)) ::
      t.rows.map fun row => line ((t.cells row).map fun x => (x.map term).getD ""))

end CommaSeparated

/-! The numbers and truth values that need no quotation marks. -/
namespace ShortForm

/-- Whether characters are digits, at least one. -/
def isDigits (cs : List Char) : Bool := !cs.isEmpty && cs.all Char.isDigit

/-- Drops one sign, if there is one. -/
def dropSign : List Char → List Char
  | '+' :: cs => cs
  | '-' :: cs => cs
  | cs => cs

/-- Digits, with a sign or without. -/
def isInteger (cs : List Char) : Bool := isDigits (dropSign cs)

/-- A number with digits after a point. -/
def isDecimal (cs : List Char) : Bool :=
  match (dropSign cs).dropWhile Char.isDigit with
  | '.' :: rest => isDigits rest
  | _ => false

/-- An exponent with its mark. -/
def isExponent : List Char → Bool
  | 'e' :: cs => isInteger cs
  | 'E' :: cs => isInteger cs
  | _ => false

/-- A number with an exponent. -/
def isDouble (cs : List Char) : Bool :=
  let whole := (dropSign cs).takeWhile Char.isDigit
  match (dropSign cs).dropWhile Char.isDigit with
  | '.' :: rest =>
    !(whole.isEmpty && (rest.takeWhile Char.isDigit).isEmpty) &&
      isExponent (rest.dropWhile Char.isDigit)
  | rest => !whole.isEmpty && isExponent rest

/-- Whether a text may be written bare for a literal of a datatype. -/
def accepts (s : String) (d : Iri) : Bool :=
  if d = Xsd.boolean then s == "true" || s == "false"
  else if d = Xsd.integer then isInteger s.toList
  else if d = Xsd.decimal then isDecimal s.toList
  else if d = Xsd.double then isDouble s.toList
  else false

end ShortForm

namespace TabSeparated

/-- How one character is written between quotation marks. -/
def encodeChar (c : Char) : List Char :=
  if c = '\t' then ['\\', 't']
  else if c = '\n' then ['\\', 'n']
  else if c = '\r' then ['\\', 'r']
  else if c = '"' then ['\\', '"']
  else if c = '\\' then ['\\', '\\']
  else [c]

/-- A text in quotes. -/
def quote (s : String) : String := String.ofList ('"' :: s.toList.flatMap encodeChar ++ ['"'])

/-- A term as it is written in queries, short where that is accepted. -/
def term : Term → String
  | .iri i => i.toText
  | .blank b => b.toText
  | .literal (.tagged s l) => quote s ++ "@" ++ l
  | .literal (.typed s d) =>
    if ShortForm.accepts s d then s
    else if d = Xsd.string then quote s
    else quote s ++ "^^" ++ d.toText

/-- The document of a table. -/
def table (t : ResultTable) : String :=
  let line (cells : List String) := SeparatedValues.line "\t" cells "\n"
  String.join
    (line (t.vars.map (·.toText)) ::
      t.rows.map fun row => line ((t.cells row).map fun x => (x.map term).getD ""))

end TabSeparated

end SparqlAlgebra

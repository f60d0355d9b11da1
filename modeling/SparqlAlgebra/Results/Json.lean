import SparqlAlgebra.Results.Table

/-!
# Results in JSON

An object with a head, which lists the variables, and either a truth value or the rows. A term is an object
with its type and its value. Nothing is written that could be left out.
-/

namespace SparqlAlgebra

namespace JsonResults

/-- How one character is written in a string. -/
def encodeChar (c : Char) : List Char :=
  if c = '\\' then ['\\', '\\']
  else if c = '"' then ['\\', '"']
  else if c = '\x08' then ['\\', 'b']
  else if c = '\x0c' then ['\\', 'f']
  else if c = '\n' then ['\\', 'n']
  else if c = '\r' then ['\\', 'r']
  else if c = '\t' then ['\\', 't']
  else if c.toNat < 0x20 then '\\' :: 'u' :: lowerHex 4 c.toNat
  else [c]

/-- A text as a JSON string. -/
def quote (s : String) : String := String.ofList ('"' :: s.toList.flatMap encodeChar ++ ['"'])

/-- An object of members that are written already. -/
def object (members : List (String × String)) : String :=
  "\x7b" ++ String.intercalate "," (members.map fun (k, v) => quote k ++ ":" ++ v) ++ "\x7d"

/-- An array of elements that are written already. -/
def array (elements : List String) : String := "[" ++ String.intercalate "," elements ++ "]"

/-- The object of a term. -/
def term : Term → String
  | .iri i => object [("type", quote "uri"), ("value", quote i.text)]
  | .blank b => object [("type", quote "bnode"), ("value", quote b.label)]
  | .literal (.tagged s l) =>
    object [("type", quote "literal"), ("value", quote s), ("xml:lang", quote l)]
  | .literal (.typed s d) =>
    object ([("type", quote "literal"), ("value", quote s)] ++
      if d = Xsd.string then [] else [("datatype", quote d.text)])

/-- The document of a truth value. -/
def boolean (b : Bool) : String :=
  object [("head", object []), ("boolean", if b then "true" else "false")]

/-- The document of a table. -/
def table (t : ResultTable) : String :=
  let rows := t.rows.map fun row => object ((t.bindings row).map fun (v, x) => (v.name, term x))
  object
    [("head", object [("vars", array (t.vars.map fun v => quote v.name))]),
      ("results", object [("bindings", array rows)])]

end JsonResults

end SparqlAlgebra

import SparqlAlgebra.Value.Numeric
import SparqlAlgebra.Time.DateTime

/-!
# Comparing literals by value

What value a literal stands for, the comparison operators of expressions, and the truth value of a term.
A literal whose datatype is unknown, or whose lexical form does not fit its datatype, stands for no known
value.
-/

namespace SparqlAlgebra

/-- The value that a literal stands for. -/
inductive LiteralValue where
  | number (value : Numeric)
  | truth (value : Bool)
  | text (value : String)
  | taggedText (value : String) (language : String)
  | moment (value : Moment)
  /-- Ill-formed, or of an unknown datatype. -/
  | unknown

/-- Whether two language tags are the same up to the case of ASCII letters. -/
def sameLanguage (a b : String) : Bool :=
  a.toList.map Char.toLower == b.toList.map Char.toLower

/-- Lexicographic order by code point. -/
def compareText (a b : String) : Ordering :=
  compareOfLessAndEq a b

namespace Literal

/-- The truth value that a lexical form of `xsd:boolean` stands for. -/
def readBool? (s : String) : Option Bool :=
  if s = "true" ∨ s = "1" then some true
  else if s = "false" ∨ s = "0" then some false
  else none

/-- The value of a literal. -/
def value (l : Literal) : LiteralValue :=
  let d := l.datatype
  if d = Xsd.string then .text l.text
  else if d = rdfLangString then .taggedText l.text (l.language?.getD "")
  else if d = Xsd.boolean then ((readBool? l.text).map .truth).getD .unknown
  else if d = Xsd.dateTime then ((Moment.ofText? l.text).map .moment).getD .unknown
  else ((Numeric.ofLiteral? l).map .number).getD .unknown

end Literal

namespace LiteralValue

/-- The order of two values of one kind. Texts in different languages are not comparable. -/
def compare? : LiteralValue → LiteralValue → Option Ordering
  | .number a, .number b => a.compare? b
  | .truth a, .truth b => some (compare a b)
  | .text a, .text b => some (compareText a b)
  | .taggedText a l, .taggedText b m => if sameLanguage l m then some (compareText a b) else none
  | .moment a, .moment b => a.compare? b
  | _, _ => none

/-- Equality of the values of two different literals. It is undecided if one of them is unknown. -/
def equal? : LiteralValue → LiteralValue → Option Bool
  | .number a, .number b => some (a.equal b)
  | .truth a, .truth b => some (a == b)
  | .moment a, .moment b => some (a.compare? b == some .eq)
  | .unknown, _ => none
  | _, .unknown => none
  | _, _ => some false

end LiteralValue

namespace Term

/-- The comparison behind `<`, `>`, `<=` and `>=`. Only literals of one kind are comparable. -/
def compare? : Term → Term → Option Ordering
  | .literal a, .literal b => a.value.compare? b.value
  | _, _ => none

/-- The comparison behind `=`. Terms that are the same are equal; numbers, truth values and moments
are compared by value. -/
def equal? (s t : Term) : Option Bool :=
  if s = t then some true
  else
    match s, t with
    | .literal a, .literal b => a.value.equal? b.value
    | _, _ => some false

/-- The effective boolean value. A truth value that is ill-formed and a number that is ill-formed are
false. -/
def truth? : Term → Option Bool
  | .literal l =>
    let d := l.datatype
    if d = Xsd.boolean then some (l.text == "true" || l.text == "1")
    else if d = Xsd.string ∨ d = rdfLangString then some (l.text != "")
    else
      match Numeric.ofLiteral? l with
      | some n => some (!n.isZero && !n.isNaN)
      | none => if d.isNumericDatatype then some false else none
  | _ => none

end Term

end SparqlAlgebra

import SparqlAlgebra.Text.Basic
import SparqlAlgebra.Value.Literal

/-!
# Casts

Conversions between the datatypes of XML Schema. White space around a text that is read is ignored.
-/

namespace SparqlAlgebra

/-- What a literal offers to a cast. -/
inductive CastSource where
  | number (value : Numeric)
  | truth (value : Bool)
  /-- The text of a plain string, to be read. -/
  | text (value : String)
  /-- Any other literal without a language. -/
  | other (text : String) (datatype : Iri)

namespace CastSource

/-- The source that a literal offers. An ill-formed truth value and a text in a language offer none. -/
def ofLiteral? (l : Literal) : Option CastSource :=
  let d := l.datatype
  if d = Xsd.string then some (.text l.text)
  else if d = Xsd.boolean then (Literal.readBool? l.text).map .truth
  else
    match Numeric.ofLiteral? l with
    | some n => some (.number n)
    | none => if l.language?.isNone then some (.other l.text d) else none

/-- What a term offers to a cast. Only literals offer something. -/
def ofTerm? : Term → Option CastSource
  | .literal l => ofLiteral? l
  | _ => none

end CastSource

namespace Cast

/-- A text without white space around it. -/
def trimmed (s : String) : String := String.ofList (Text.trim s.toList)

/-- The text of an IRI or of a literal without a language. -/
def string? : Term → Option Literal
  | .iri i => some (.string i.text)
  | .literal (.typed s _) => some (.string s)
  | _ => none

/-- The truth value of a source: a number is true unless it is zero or not a number. -/
def boolean? : CastSource → Option Bool
  | .truth b => some b
  | .number n => some (!n.isZero && !n.isNaN)
  | .text s => Literal.readBool? s
  | .other .. => none

/-- The greatest magnitude of a floating-point number that is cast to an integer. -/
def integerBound : Nat := 92 * Nat.pow 10 17

/-- Cuts a floating-point number off toward zero, unless it is too great. -/
def integerOfDouble? (x : Double) : Option Int :=
  x.truncate?.bind fun i => if i.natAbs ≤ integerBound then some i else none

/-- The integer of a source: numbers are cut off at the point, and what does not fit is an error. -/
def integer? : CastSource → Option Int
  | .truth b => some (if b then 1 else 0)
  | .number (.integer i) => some i
  | .number (.decimal d) => if fitsInt64 d.truncate then some d.truncate else none
  | .number n => integerOfDouble? n.toDouble
  | .text s => Numeric.readInteger? (trimmed s)
  | .other .. => none

/-- An integer of 32 bits. -/
def int? (s : CastSource) : Option Int :=
  (integer? s).bind fun i => if -(Nat.pow 2 31 : Int) ≤ i ∧ i < Nat.pow 2 31 then some i else none

/-- The decimal of a source. -/
def decimal? : CastSource → Option Decimal
  | .truth b => some (.ofInt (if b then 1 else 0))
  | .number (.integer i) => some (.ofInt i)
  | .number (.decimal d) => some d
  | .number n => Decimal.ofDouble? n.toDouble
  | .text s => Decimal.ofText? (trimmed s)
  | .other .. => none

/-- The double of a source. -/
def double? : CastSource → Option Double
  | .truth b => some (Binary.ofInt (if b then 1 else 0))
  | .number n => some n.toDouble
  | .text s => Binary.ofText? (trimmed s)
  | .other .. => none

/-- The float of a source. Texts are read as floats, everything else goes through doubles. -/
def single? : CastSource → Option Single
  | .text s => Binary.ofText? (trimmed s)
  | s => (double? s).map Binary.convert

/-- The moment of a source: a text is read, and so is what has been written as a moment. -/
def moment? : CastSource → Option Moment
  | .text s => Moment.ofText? (trimmed s)
  | .other s d => if d = Xsd.dateTime then Moment.ofText? (trimmed s) else none
  | _ => none

end Cast

end SparqlAlgebra

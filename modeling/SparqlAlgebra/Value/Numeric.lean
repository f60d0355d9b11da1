import SparqlAlgebra.Number.Decimal
import SparqlAlgebra.Rdf.Vocabulary

/-!
# Numeric values of literals

Integers of 64 bits, decimals, and floating-point numbers of both precisions. Arithmetic promotes two
operands to the greater of their types, in the order integer, decimal, single, double. A result that does
not fit has no value.
-/

namespace SparqlAlgebra

/-- A value of one of the numeric types. All types derived from `xsd:integer` share the first case. -/
inductive Numeric where
  | integer (value : Int)
  | decimal (value : Decimal)
  | single (value : Single)
  | double (value : Double)
  deriving DecidableEq, Inhabited

/-- Two numbers promoted to a common type. -/
inductive NumericPair where
  | integer (lhs rhs : Int)
  | decimal (lhs rhs : Decimal)
  | single (lhs rhs : Single)
  | double (lhs rhs : Double)

/-- Whether an integer fits in 64 bits. -/
def fitsInt64 (i : Int) : Bool := -(Nat.pow 2 63 : Int) ≤ i && i < Nat.pow 2 63

/-- Reads an optional minus sign and decimal digits whose value fits in 64 bits. -/
def readInt64? (cs : List Char) : Option Int :=
  let (neg, ds) := match cs with
    | '-' :: r => (true, r)
    | '+' :: r => (false, r)
    | r => (false, r)
  if ds.isEmpty || !ds.all Char.isDigit then none
  else
    let n : Int := Binary.digitsValue ds
    let i := if neg then -n else n
    if fitsInt64 i then some i else none

/-- Reads decimal digits, after at most one plus sign, whose value fits in 64 bits. -/
def readNat64? (cs : List Char) : Option Nat :=
  let ds := match cs with
    | '+' :: r => r
    | r => r
  if ds.isEmpty || !ds.all Char.isDigit then none
  else
    let n := Binary.digitsValue ds
    if n < Nat.pow 2 64 then some n else none

namespace Numeric

/-- Reads the text of an integer: any number of leading plus signs may stand before it. -/
def readInteger? (s : String) : Option Int := readInt64? (s.toList.dropWhile (· == '+'))

/-- The numeric value of a literal. Ill-formed literals and those of another type have none. -/
def ofLiteral? (l : Literal) : Option Numeric :=
  let d := l.datatype
  if d = Xsd.double then (Binary.ofText? l.text).map .double
  else if d = Xsd.float then (Binary.ofText? l.text).map .single
  else if d = Xsd.decimal then (Decimal.ofText? l.text).map .decimal
  else if d.isIntegerDatatype then (readInteger? l.text).map .integer
  else none

/-- The canonical literal of a number. -/
def toLiteral : Numeric → Literal
  | .integer i => .ofInt i
  | .decimal d => .typed d.toText Xsd.decimal
  | .single x => .typed x.toLexical Xsd.float
  | .double x => .typed x.toLexical Xsd.double

/-- A number in double precision. -/
def toDouble : Numeric → Double
  | .integer i => Binary.ofInt i
  | .decimal d => d.toDouble
  | .single x => x.convert
  | .double x => x

/-- A number in single precision. -/
def toSingle : Numeric → Single
  | .integer i => Binary.ofInt i
  | .decimal d => d.toSingle
  | .single x => x
  | .double x => x.convert

/-- Whether a number is zero. -/
def isZero : Numeric → Bool
  | .integer i => i == 0
  | .decimal d => d.units == 0
  | .single x => x.isZero
  | .double x => x.isZero

/-- Whether a number is not a number. -/
def isNaN : Numeric → Bool
  | .single x => x.isNaN
  | .double x => x.isNaN
  | _ => false

/-- Promotes two numbers to the greater of their types. -/
def promote : Numeric → Numeric → NumericPair
  | .integer a, .integer b => .integer a b
  | .integer a, .decimal b => .decimal (.ofInt a) b
  | .decimal a, .integer b => .decimal a (.ofInt b)
  | .decimal a, .decimal b => .decimal a b
  | a, .double b => .double a.toDouble b
  | .double a, b => .double a b.toDouble
  | a, .single b => .single a.toSingle b
  | .single a, b => .single a b.toSingle

/-- The integer, if it fits in 64 bits. -/
def integer? (i : Int) : Option Numeric := if fitsInt64 i then some (.integer i) else none

/-- The sum in the common type, unless it overflows. -/
def add? (x y : Numeric) : Option Numeric :=
  match promote x y with
  | .integer a b => integer? (a + b)
  | .decimal a b => (a.add? b).map .decimal
  | .single a b => some (.single (a + b))
  | .double a b => some (.double (a + b))

/-- The difference in the common type, unless it overflows. -/
def sub? (x y : Numeric) : Option Numeric :=
  match promote x y with
  | .integer a b => integer? (a - b)
  | .decimal a b => (a.sub? b).map .decimal
  | .single a b => some (.single (a - b))
  | .double a b => some (.double (a - b))

/-- The product in the common type, unless it overflows. -/
def mul? (x y : Numeric) : Option Numeric :=
  match promote x y with
  | .integer a b => integer? (a * b)
  | .decimal a b => (a.mul? b).map .decimal
  | .single a b => some (.single (a * b))
  | .double a b => some (.double (a * b))

/-- The quotient. That of two integers is a decimal. -/
def div? (x y : Numeric) : Option Numeric :=
  match promote x y with
  | .integer a b => ((Decimal.ofInt a).div? (.ofInt b)).map .decimal
  | .decimal a b => (a.div? b).map .decimal
  | .single a b => some (.single (a / b))
  | .double a b => some (.double (a / b))

/-- The opposite number, unless it overflows. -/
def neg? : Numeric → Option Numeric
  | .integer i => integer? (-i)
  | .decimal d => d.neg?.map .decimal
  | .single x => some (.single (-x))
  | .double x => some (.double (-x))

/-- The absolute value, unless it overflows. -/
def abs? : Numeric → Option Numeric
  | .integer i => integer? i.natAbs
  | .decimal d => d.abs?.map .decimal
  | .single x => some (.single x.abs)
  | .double x => some (.double x.abs)

/-- Rounds to an integer. A floating-point number is moved up by a half and then cut down. -/
def round? : Numeric → Option Numeric
  | .integer i => some (.integer i)
  | .decimal d => d.round?.map .decimal
  | .single x => some (.single (x + Binary.round false 1 2).floor)
  | .double x => some (.double (x + Binary.round false 1 2).floor)

/-- The next whole number above. -/
def ceil? : Numeric → Option Numeric
  | .integer i => some (.integer i)
  | .decimal d => d.ceil?.map .decimal
  | .single x => some (.single x.ceil)
  | .double x => some (.double x.ceil)

/-- The next whole number below. -/
def floor? : Numeric → Option Numeric
  | .integer i => some (.integer i)
  | .decimal d => d.floor?.map .decimal
  | .single x => some (.single x.floor)
  | .double x => some (.double x.floor)

/-- The numeric order of the promoted operands. A not-a-number is not comparable. -/
def compare? (x y : Numeric) : Option Ordering :=
  match promote x y with
  | .integer a b => some (compare a b)
  | .decimal a b => some (compare a.units b.units)
  | .single a b => a.compare? b
  | .double a b => a.compare? b

/-- Numeric equality, which no not-a-number has with anything. -/
def equal (x y : Numeric) : Bool := compare? x y == some .eq

end Numeric

end SparqlAlgebra

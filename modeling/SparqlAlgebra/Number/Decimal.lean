import SparqlAlgebra.Number.Digits

/-!
# Decimal numbers with eighteen places

A decimal is an integer count of units of `10 ^ -18` that fits in 128 bits. An operation whose result does
not fit has no value, and so has a product or quotient that would need more than eighteen places.
-/

namespace SparqlAlgebra

/-- A decimal number, as a count of units of `10 ^ -18`. -/
structure Decimal where
  /-- How many units the number has. -/
  units : Int
  deriving DecidableEq, Inhabited

namespace Decimal

/-- Number of decimal places. -/
def places : Nat := 18

/-- Units of the number one. -/
def unit : Int := Nat.pow 10 places

/-- Whether a count of units fits in 128 bits. -/
def fits (i : Int) : Bool := -(Nat.pow 2 127 : Int) ≤ i && i < Nat.pow 2 127

/-- The decimal with the given units, if they fit. -/
def ofUnits? (i : Int) : Option Decimal := if fits i then some ⟨i⟩ else none

/-- The decimal of a small integer, such as one of 64 bits. -/
def ofInt (i : Int) : Decimal := ⟨i * unit⟩

/-- No units. -/
def zero : Decimal := ⟨0⟩

/-- The sum, if it fits. -/
def add? (x y : Decimal) : Option Decimal := ofUnits? (x.units + y.units)

/-- The difference, if it fits. -/
def sub? (x y : Decimal) : Option Decimal := ofUnits? (x.units - y.units)

/-- The opposite number, if it fits: the least number has none. -/
def neg? (x : Decimal) : Option Decimal := ofUnits? (-x.units)

/-- The absolute value, if it fits. -/
def abs? (x : Decimal) : Option Decimal := ofUnits? x.units.natAbs

/-- Divides by ten while the remainder is zero. Gives the rest and the number of divisions; the fuel
bounds them. -/
def stripZeros : Nat → Int → Int × Nat
  | 0, i => (i, 0)
  | fuel + 1, i =>
    if i != 0 && i.tmod 10 == 0 then
      let (r, n) := stripZeros fuel (i.tdiv 10)
      (r, n + 1)
    else (i, 0)

/-- Multiplies by ten while the result fits. Gives the product and the number of steps; the fuel bounds
them. -/
def fillPlaces : Nat → Int → Int × Nat
  | 0, i => (i, 0)
  | fuel + 1, i =>
    if i != 0 && fits (i * 10) then
      let (r, n) := fillPlaces fuel (i * 10)
      (r, n + 1)
    else (i, 0)

/-- The product. It has no value if it needs more than eighteen places, or if it or the product of the
factors without their trailing zeros does not fit. -/
def mul? (x y : Decimal) : Option Decimal :=
  if x.units = 0 ∨ y.units = 0 then some zero
  else
    let (a, i) := stripZeros 40 x.units
    let (b, j) := stripZeros 40 y.units
    let scaled := a * b * Nat.pow 10 (i + j)
    if fits (a * b) && scaled.tmod unit == 0 then ofUnits? (scaled.tdiv unit) else none

/-- The quotient, cut off toward zero. The dividend is scaled up and the divisor scaled down as far as
they go; there is no value if this leaves fewer than eighteen places, or so many that their power of ten
does not fit. -/
def div? (x y : Decimal) : Option Decimal :=
  let (a, i) := fillPlaces 40 x.units
  let (b, j) := stripZeros 40 y.units
  if i + j < places ∨ ¬ fits (Nat.pow 10 (i + j - places)) ∨ b = 0 then none
  else if fits (a.tdiv b) then some ⟨(a.tdiv b).tdiv (Nat.pow 10 (i + j - places))⟩ else none

/-- The nearest integer, of two the greater one. -/
def round? (x : Decimal) : Option Decimal := ofUnits? ((x.units + unit / 2) / unit * unit)

/-- The least integer not below the number. -/
def ceil? (x : Decimal) : Option Decimal :=
  let n := if x.units > 0 ∧ x.units.tmod unit ≠ 0 then x.units.tdiv unit + 1 else x.units.tdiv unit
  ofUnits? (n * unit)

/-- The greatest integer not above the number. -/
def floor? (x : Decimal) : Option Decimal :=
  let n := if x.units < 0 ∧ x.units.tmod unit ≠ 0 then x.units.tdiv unit - 1 else x.units.tdiv unit
  ofUnits? (n * unit)

/-- The integer part, cut off toward zero. -/
def truncate (x : Decimal) : Int := x.units.tdiv unit

/-- Decimals are compared by their units. -/
instance : Ord Decimal := ⟨fun x y => compare x.units y.units⟩

/-- Drops common factors of ten from units and scale, at most eighteen of them. -/
def reduceScale : Nat → Int → Int × Nat
  | 0, i => (i, 0)
  | places + 1, i =>
    if i.tmod 10 = 0 then reduceScale places (i.tdiv 10) else (i, places + 1)

/-- The double-precision quotient of the reduced units and scale, each rounded on its own first. -/
def toDouble (x : Decimal) : Double :=
  let (i, n) := reduceScale places x.units
  Binary.ofInt i / Binary.ofInt (Nat.pow 10 n)

/-- The nearest float, by way of the nearest double. -/
def toSingle (x : Decimal) : Single := x.toDouble.convert

/-- The double scaled by `10 ^ 18` in double precision and cut off, if that fits. -/
def ofDouble? (x : Double) : Option Decimal :=
  let y := x * Binary.ofInt unit
  if Binary.le (Binary.ofInt (-(Nat.pow 2 127 : Int))) y && Binary.le y (Binary.ofInt (Nat.pow 2 127)) then
    y.truncate?.map fun i => ⟨min i (Nat.pow 2 127 - 1)⟩
  else none

/-- Writes the number without trailing zeros and without a point if it is integral. -/
def toText (x : Decimal) : String :=
  let d := ScaledDigits.trim places ⟨x.units.natAbs, -(places : Int)⟩
  let magnitude := if d.digits = 0 then "0" else d.toPositional
  if x.units < 0 then "-" ++ magnitude else magnitude

/-- Reads an optional sign and digits with an optional point; one side of the point may be empty. At
most eighteen places may be left after trailing zeros are dropped. -/
def ofText? (s : String) : Option Decimal :=
  let (neg, cs) := match s.toList with
    | '-' :: r => (true, r)
    | '+' :: r => (false, r)
    | r => (false, r)
  let whole := cs.takeWhile Char.isDigit
  let rest := cs.dropWhile Char.isDigit
  let fraction? := match rest with
    | [] => some []
    | '.' :: r => if r.all Char.isDigit then some r else none
    | _ => none
  fraction?.bind fun fraction =>
    if whole.isEmpty && fraction.isEmpty then none
    else
      let kept := (fraction.reverse.dropWhile (· == '0')).reverse
      if kept.length > places then none
      else
        let n : Int := Binary.digitsValue (whole ++ kept) * Nat.pow 10 (places - kept.length)
        ofUnits? (if neg then -n else n)

end Decimal

end SparqlAlgebra

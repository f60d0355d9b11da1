import SparqlAlgebra.Number.Binary

/-!
# Decimal text of binary values

Writing finds the fewest decimal digits that still identify a value among its neighbours and lays them
out without an exponent. Reading rounds the exact decimal number once.
-/

namespace SparqlAlgebra

/-- The number `digits * 10 ^ exponent`. -/
structure ScaledDigits where
  digits : Nat
  exponent : Int
  deriving DecidableEq

namespace ScaledDigits

/-- Drops trailing zeros. The fuel is at least the number of digits. -/
def trim : Nat → ScaledDigits → ScaledDigits
  | 0, d => d
  | fuel + 1, d =>
    if d.digits != 0 && d.digits % 10 == 0 then trim fuel ⟨d.digits / 10, d.exponent + 1⟩ else d

/-- Positional text: no exponent, no point if the number is integral. -/
def toPositional (d : ScaledDigits) : String :=
  let cs := Nat.toDigits 10 d.digits
  if d.exponent ≥ 0 then
    if d.digits = 0 then "0" else String.ofList (cs ++ List.replicate d.exponent.toNat '0')
  else
    let places := d.exponent.natAbs
    if places < cs.length then
      String.ofList (cs.take (cs.length - places) ++ '.' :: cs.drop (cs.length - places))
    else String.ofList ('0' :: '.' :: List.replicate (places - cs.length) '0' ++ cs)

end ScaledDigits

namespace Binary

variable {fmt : BinaryFormat}

/-- Whether `10 ^ k ≤ num / den`. -/
def reachesPower (num den : Nat) (k : Int) : Bool :=
  if k < 0 then den ≤ num * Nat.pow 10 k.natAbs else den * Nat.pow 10 k.natAbs ≤ num

/-- The exponent of the leading decimal digit of `num / den`, for positive arguments. The leading binary digit
tells it up to one. -/
def log10Ratio (num den : Nat) : Int :=
  let guess := (log2Ratio num den * 30103).fdiv 100000
  if reachesPower num den (guess + 1) then guess + 1
  else if reachesPower num den guess then guess
  else guess - 1

/-- What the shortest digits of a number are looked for by. All lengths are fractions of one denominator. -/
structure DigitSearch where
  /-- The number is `num / den`. -/
  num : Nat
  /-- The denominator of the number and of the interval. -/
  den : Nat
  /-- How far below the number the interval of the numbers that round to it begins. -/
  below : Nat
  /-- How far above the number the interval ends. -/
  above : Nat
  /-- Whether the ends of the interval belong to it. -/
  closed : Bool
  /-- The exponent of the leading decimal digit. -/
  lead : Int

namespace DigitSearch

/-- The search for `m * 2 ^ e`. The lower neighbour of a power of two is half as far away as the upper one,
so lengths are counted in quarters of the distance to that. -/
def ofFinite (fmt : BinaryFormat) (m : Nat) (e : Int) : DigitSearch :=
  let (quarter, den) := ratio 1 (e - 2)
  let below := if m = Nat.pow 2 (fmt.precision - 1) && fmt.minExp < e then 1 else 2
  ⟨4 * m * quarter, den, below * quarter, 2 * quarter, m % 2 == 0, log10Ratio (4 * m * quarter) den⟩

/-- Whether a distance is within a margin. -/
def within (s : DigitSearch) (distance margin : Nat) : Bool :=
  if s.closed then distance ≤ margin else distance < margin

/-- The decimal number with `n` significant digits that is nearest to the number, among those in the interval.
Of two equally near ones the greater is taken. -/
def nearest? (s : DigitSearch) (n : Nat) : Option ScaledDigits :=
  let k := s.lead - ((n : Int) - 1)
  let power := Nat.pow 10 k.natAbs
  let (scale, den) := if k < 0 then (power, s.den) else (1, s.den * power)
  let low := s.num * scale / den
  let rest := s.num * scale % den
  let hitLow := low != 0 && s.within rest (s.below * scale)
  let hitHigh := s.within (den - rest) (s.above * scale)
  if hitLow && (!hitHigh || 2 * rest < den) then some ⟨low, k⟩
  else if hitHigh then some ⟨low + 1, k⟩
  else none

/-- The first hit with `n` digits or more, at most `fuel` more. -/
def shortestFrom (s : DigitSearch) : Nat → Nat → ScaledDigits
  | 0, _ => ⟨0, 0⟩
  | fuel + 1, n =>
    match s.nearest? n with
    | some d => d
    | none => s.shortestFrom fuel (n + 1)

end DigitSearch

/-- The shortest decimal number that reads back as `m * 2 ^ e`, for a positive `m`. -/
def shortest (fmt : BinaryFormat) (m : Nat) (e : Int) : ScaledDigits :=
  let d := (DigitSearch.ofFinite fmt m e).shortestFrom 17 1
  d.trim (d.digits.log2 + 1)

/-- Lower-case spelling of the special values, shortest digits without an exponent otherwise. -/
def toText : Binary fmt → String
  | .nan _ => "NaN"
  | .infinite s => if s then "-inf" else "inf"
  | .finite s m e =>
    let magnitude := if m = 0 then "0" else (shortest fmt m e).toPositional
    if s then "-" ++ magnitude else magnitude

/-- The lexical form in an RDF literal, where the infinities are written in capitals. -/
def toLexical (x : Binary fmt) : String :=
  match x with
  | .infinite s => if s then "-INF" else "INF"
  | _ => x.toText

/-- The value nearest to `digits * 10 ^ exponent`. Exponents far outside of the format are decided
without computing the power. -/
def ofScaled (neg : Bool) (digits : Nat) (exponent : Int) : Binary fmt :=
  if digits = 0 then zero neg
  else
    let top := exponent + log10Ratio digits 1
    if top ≥ 400 then .infinite neg
    else if top < -400 then zero neg
    else if exponent < 0 then round neg digits (Nat.pow 10 exponent.natAbs)
    else round neg (digits * Nat.pow 10 exponent.natAbs) 1

/-- Reads digits that follow those of a number. -/
def readDigits (n : Nat) (cs : List Char) : Nat :=
  cs.foldl (fun n c => 10 * n + (c.toNat - '0'.toNat)) n

/-- Digits that come later are appended to the number read so far. -/
theorem readDigits_eq (n : Nat) (cs : List Char) :
    readDigits n cs = n * Nat.pow 10 cs.length + readDigits 0 cs := by
  induction cs generalizing n with
  | nil => simp [readDigits]
  | cons c cs ih =>
    have step : ∀ k, readDigits k (c :: cs) = readDigits (10 * k + (c.toNat - '0'.toNat)) cs := fun _ => rfl
    rw [step n, step 0, ih, ih (10 * 0 + _), List.length_cons, Nat.mul_zero, Nat.zero_add,
      Nat.add_mul, Nat.add_assoc, Nat.mul_comm 10 n, Nat.mul_assoc, Nat.mul_comm 10]
    rfl

/-- The value of decimal digits. They are halved as often as the depth says, so that long runs take few
operations on large numbers. -/
def digitsValueTo : Nat → List Char → Nat
  | 0, cs => readDigits 0 cs
  | depth + 1, cs =>
    let low := cs.length / 2
    digitsValueTo depth (cs.take (cs.length - low)) * Nat.pow 10 low +
      digitsValueTo depth (cs.drop (cs.length - low))

/-- The value of digits does not depend on how deep they are halved. -/
theorem digitsValueTo_eq (depth : Nat) (cs : List Char) : digitsValueTo depth cs = readDigits 0 cs := by
  induction depth generalizing cs with
  | zero => rfl
  | succ depth ih =>
    simp only [digitsValueTo, ih]
    conv => rhs; rw [← List.take_append_drop (cs.length - cs.length / 2) cs]
    rw [readDigits, readDigits, readDigits, List.foldl_append, ← readDigits, ← readDigits, ← readDigits,
      readDigits_eq (readDigits 0 _)]
    congr 3
    simp only [List.length_drop]
    omega

/-- The value of a run of decimal digits. -/
def digitsValue (cs : List Char) : Nat := digitsValueTo (cs.length.log2 - 6) cs

/-- Reads an exponent such as `e-7`, and nothing else. No text at all is the exponent zero. -/
def readExponent : List Char → Option Int
  | [] => some 0
  | c :: cs =>
    if c = 'e' ∨ c = 'E' then
      let (neg, ds) := match cs with
        | '-' :: r => (true, r)
        | '+' :: r => (false, r)
        | r => (false, r)
      if ds.isEmpty || !ds.all Char.isDigit then none
      else some (if neg then -(digitsValue ds : Int) else digitsValue ds)
    else none

/-- Reads an unsigned decimal number with an optional point and exponent. -/
def readMagnitude (neg : Bool) (cs : List Char) : Option (Binary fmt) :=
  let whole := cs.takeWhile Char.isDigit
  let rest := cs.dropWhile Char.isDigit
  let (fraction, rest) := match rest with
    | '.' :: r => (r.takeWhile Char.isDigit, r.dropWhile Char.isDigit)
    | r => ([], r)
  if whole.isEmpty && fraction.isEmpty then none
  else (readExponent rest).map fun e =>
    ofScaled neg (digitsValue (whole ++ fraction)) (e - fraction.length)

/-- Reads a signed number, or one of the names `inf`, `infinity` and `nan` in any case. -/
def ofText? (s : String) : Option (Binary fmt) :=
  let (neg, cs) := match s.toList with
    | '-' :: r => (true, r)
    | '+' :: r => (false, r)
    | r => (false, r)
  let name := String.ofList (cs.map Char.toLower)
  if name = "inf" ∨ name = "infinity" then some (.infinite neg)
  else if name = "nan" then some (.nan neg)
  else readMagnitude neg cs

end Binary

end SparqlAlgebra

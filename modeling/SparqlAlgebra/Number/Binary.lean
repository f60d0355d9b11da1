/-!
# Binary floating point

A value is a not-a-number, an infinity or an exact dyadic number with a sign. Every operation computes
the exact rational result and rounds it once, to the nearest representable value, ties going to the
even significand. The format is a parameter, so single and double precision share each definition.
-/

namespace SparqlAlgebra

/-- The shape of a binary format: how many significant bits it has and which exponents its last bit
may have. -/
structure BinaryFormat where
  /-- Number of bits of a normal significand. -/
  precision : Nat
  /-- Least exponent of the last bit, reached by the subnormal values. -/
  minExp : Int
  /-- Greatest exponent of the last bit of a finite value. -/
  maxExp : Int
  deriving DecidableEq

namespace BinaryFormat

/-- Single precision. -/
def single : BinaryFormat := ⟨24, -149, 104⟩

/-- Double precision. -/
def double : BinaryFormat := ⟨53, -1074, 971⟩

end BinaryFormat

/-- A value of a binary format. `finite neg m e` stands for `m * 2 ^ e` with its sign; a zero keeps its
sign, and so does a not-a-number. -/
inductive Binary (fmt : BinaryFormat) where
  /-- Not a number. -/
  | nan (neg : Bool)
  /-- An infinity. -/
  | infinite (neg : Bool)
  /-- The number `m * 2 ^ e`, negated if `neg` holds. -/
  | finite (neg : Bool) (m : Nat) (e : Int)
  deriving DecidableEq, Inhabited

/-- A single-precision value. -/
abbrev Single := Binary BinaryFormat.single

/-- A double-precision value. -/
abbrev Double := Binary BinaryFormat.double

namespace Binary

variable {fmt : BinaryFormat}

/-- The numerator and denominator of `m * 2 ^ e`. -/
def ratio (m : Nat) (e : Int) : Nat × Nat :=
  if e < 0 then (m, Nat.pow 2 e.natAbs) else (m * Nat.pow 2 e.natAbs, 1)

/-- The quotient `num / den` rounded to the nearest integer, a tie going to the even one. -/
def roundHalfEven (num den : Nat) : Nat :=
  let q := num / den
  let r := num % den
  if 2 * r < den then q else if 2 * r > den then q + 1 else q + q % 2

/-- The greatest `k` with `2 ^ k ≤ num / den`, for positive arguments. -/
def log2Ratio (num den : Nat) : Int :=
  let d : Int := (num.log2 : Int) - (den.log2 : Int)
  let reaches := if d < 0 then den ≤ num * Nat.pow 2 d.natAbs else den * Nat.pow 2 d.natAbs ≤ num
  if reaches then d else d - 1

/-- Zero with the given sign. -/
def zero (neg : Bool) : Binary fmt := .finite neg 0 fmt.minExp

/-- The value nearest to `num / den`, with the given sign. What lies beyond the greatest finite value
becomes infinite. -/
def round (neg : Bool) (num den : Nat) : Binary fmt :=
  if num = 0 then zero neg
  else
    let e := max (log2Ratio num den - ((fmt.precision : Int) - 1)) fmt.minExp
    let m := if e < 0 then roundHalfEven (num * Nat.pow 2 e.natAbs) den
      else roundHalfEven num (den * Nat.pow 2 e.natAbs)
    let (m, e) := if m = Nat.pow 2 fmt.precision then (m / 2, e + 1) else (m, e)
    if e > fmt.maxExp then .infinite neg
    else if m = 0 then zero neg else .finite neg m e

/-- The value nearest to an integer. -/
def ofInt (i : Int) : Binary fmt := round (i < 0) i.natAbs 1

/-- The value nearest to the number in another format. -/
def convert {src : BinaryFormat} : Binary src → Binary fmt
  | .nan s => .nan s
  | .infinite s => .infinite s
  | .finite s m e => round s (ratio m e).1 (ratio m e).2

/-- Whether it is no number. -/
def isNaN : Binary fmt → Bool
  | .nan _ => true
  | _ => false

/-- Whether it is a finite number. -/
def isFinite : Binary fmt → Bool
  | .finite .. => true
  | _ => false

/-- Whether the value is a zero of either sign. -/
def isZero : Binary fmt → Bool
  | .finite _ m _ => m == 0
  | _ => false

/-- Changes the sign, also that of zero and of what is no number. -/
def neg : Binary fmt → Binary fmt
  | .nan s => .nan !s
  | .infinite s => .infinite !s
  | .finite s m e => .finite (!s) m e

/-- Takes the sign away. -/
def abs : Binary fmt → Binary fmt
  | .nan _ => .nan false
  | .infinite _ => .infinite false
  | .finite _ m e => .finite false m e

/-- The integer `± m * 2 ^ (e - base)`, for `base ≤ e`. -/
def scaled (s : Bool) (m : Nat) (e base : Int) : Int :=
  let n : Int := m * Nat.pow 2 (e - base).toNat
  if s then -n else n

/-- The rounded sum. Opposite infinities have none. -/
def add : Binary fmt → Binary fmt → Binary fmt
  | .nan s, _ => .nan s
  | _, .nan s => .nan s
  | .infinite s, .infinite t => if s = t then .infinite s else .nan true
  | .infinite s, _ => .infinite s
  | _, .infinite s => .infinite s
  | .finite s m e, .finite t n f =>
    let base := min e f
    let sum := scaled s m e base + scaled t n f base
    if sum = 0 then zero (s && t)
    else round (sum < 0) (ratio sum.natAbs base).1 (ratio sum.natAbs base).2

/-- The rounded difference. -/
def sub (x y : Binary fmt) : Binary fmt := add x (neg y)

/-- The rounded product. Zero times infinity has none. -/
def mul : Binary fmt → Binary fmt → Binary fmt
  | .nan s, _ => .nan s
  | _, .nan s => .nan s
  | .infinite s, .infinite t => .infinite (s != t)
  | .infinite s, .finite t m _ => if m = 0 then .nan true else .infinite (s != t)
  | .finite s m _, .infinite t => if m = 0 then .nan true else .infinite (s != t)
  | .finite s m e, .finite t n f =>
    round (s != t) (ratio (m * n) (e + f)).1 (ratio (m * n) (e + f)).2

/-- The rounded quotient. Anything but zero divided by zero is infinite. -/
def div : Binary fmt → Binary fmt → Binary fmt
  | .nan s, _ => .nan s
  | _, .nan s => .nan s
  | .infinite _, .infinite _ => .nan true
  | .infinite s, .finite t _ _ => .infinite (s != t)
  | .finite s _ _, .infinite t => zero (s != t)
  | .finite s m e, .finite t n f =>
    if n = 0 then (if m = 0 then .nan true else .infinite (s != t))
    else
      let x := ratio m e
      let y := ratio n f
      round (s != t) (x.1 * y.2) (x.2 * y.1)

instance : Neg (Binary fmt) := ⟨neg⟩
instance : Add (Binary fmt) := ⟨add⟩
instance : Sub (Binary fmt) := ⟨sub⟩
instance : Mul (Binary fmt) := ⟨mul⟩
instance : Div (Binary fmt) := ⟨div⟩

/-- Rounds a magnitude to an integer: away from zero if `up` holds, else toward zero. -/
def roundMagnitude (up : Bool) : Binary fmt → Binary fmt
  | .finite s m e =>
    if e < 0 then
      let d := Nat.pow 2 e.natAbs
      let q := if up && m % d != 0 then m / d + 1 else m / d
      round s q 1
    else .finite s m e
  | x => x

/-- Whether the sign is set. -/
def isNegative : Binary fmt → Bool
  | .nan s => s
  | .infinite s => s
  | .finite s _ _ => s

/-- The greatest integer not above the value. -/
def floor (x : Binary fmt) : Binary fmt := roundMagnitude x.isNegative x

/-- The least integer not below the value. -/
def ceil (x : Binary fmt) : Binary fmt := roundMagnitude (!x.isNegative) x

/-- The nearest integer, halves going away from zero. -/
def roundHalfAway : Binary fmt → Binary fmt
  | .finite s m e =>
    if e < 0 then
      let d := Nat.pow 2 e.natAbs
      round s ((2 * m + d) / (2 * d)) 1
    else .finite s m e
  | x => x

/-- The integer part of a finite value. -/
def truncate? : Binary fmt → Option Int
  | .finite s m e =>
    let n : Int := if e < 0 then m / Nat.pow 2 e.natAbs else m * Nat.pow 2 e.natAbs
    some (if s then -n else n)
  | _ => none

/-- The order of two finite values. -/
def compareFinite (s : Bool) (m : Nat) (e : Int) (t : Bool) (n : Nat) (f : Int) : Ordering :=
  let base := min e f
  compare (scaled s m e base) (scaled t n f base)

/-- The numeric order. A not-a-number is not comparable, and the zeros are equal. -/
def compare? : Binary fmt → Binary fmt → Option Ordering
  | .nan _, _ => none
  | _, .nan _ => none
  | .infinite s, .infinite t => some (if s = t then .eq else if s then .lt else .gt)
  | .infinite s, .finite .. => some (if s then .lt else .gt)
  | .finite .., .infinite t => some (if t then .gt else .lt)
  | .finite s m e, .finite t n f => some (compareFinite s m e t n f)

/-- Whether one number is less than another one. What is no number is not. -/
def lt (x y : Binary fmt) : Bool := compare? x y == some .lt

/-- Whether it is less or equal. -/
def le (x y : Binary fmt) : Bool := compare? x y == some .lt || compare? x y == some .eq

/-- The class of a value in the total order: negative not-a-numbers, the numbers, positive
not-a-numbers. -/
def totalRank : Binary fmt → Nat
  | .nan true => 0
  | .infinite true => 1
  | .finite .. => 2
  | .infinite false => 3
  | .nan false => 4

/-- The total order: negative not-a-numbers come first, positive ones last, and the negative zero
comes before the positive one. -/
def totalCompare (x y : Binary fmt) : Ordering :=
  match x, y with
  | .finite s m e, .finite t n f =>
    (compareFinite s m e t n f).then
      (if s = t then .eq else if s then .lt else .gt)
  | _, _ => compare x.totalRank y.totalRank

end Binary

end SparqlAlgebra

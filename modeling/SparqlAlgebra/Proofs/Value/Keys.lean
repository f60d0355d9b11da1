import SparqlAlgebra.Proofs.Number.Compare
import SparqlAlgebra.Proofs.Value.IntegerText

/-!
# Double-precision keys of numbers

Numbers are sorted by doubles and compared by the values that they are promoted to. A key is on the same side of another
one as the number is of the other number, except that two exact numbers may share a key, and that the key of a decimal
with too many digits is rounded more than once.
-/

namespace SparqlAlgebra

/-! ## What is read fits the format -/

namespace Binary

variable {fmt : BinaryFormat}

/-- What is made of decimal digits fits the format. -/
theorem fits_ofScaled (hfmt : fmt.Proper) (neg : Bool) (digits : Nat) (exponent : Int) :
    (ofScaled neg digits exponent : Binary fmt).Fits := by
  have hzero : (zero neg : Binary fmt).Fits := ⟨by positivity, le_rfl, hfmt.exponents⟩
  unfold ofScaled
  split
  · exact hzero
  · dsimp only
    split
    · exact trivial
    · split
      · exact hzero
      · split
        · exact (round_spec neg hfmt (by rw [Nat.pow_eq]; positivity)).1
        · exact (round_spec neg hfmt one_pos).1

/-- A number that has been read without its sign fits the format. -/
theorem fits_of_readMagnitude (hfmt : fmt.Proper) {neg : Bool} {cs : List Char} {x : Binary fmt}
    (h : readMagnitude neg cs = some x) : x.Fits := by
  unfold readMagnitude at h
  dsimp only at h
  split_ifs at h
  obtain ⟨e, -, rfl⟩ := Option.map_eq_some_iff.1 h
  exact fits_ofScaled hfmt _ _ _

/-- A number that has been read fits the format. -/
theorem fits_of_ofText? (hfmt : fmt.Proper) {s : String} {x : Binary fmt} (h : ofText? s = some x) : x.Fits := by
  unfold ofText? at h
  split at h
  dsimp only at h
  split_ifs at h
  · obtain rfl := Option.some.inj h
    exact trivial
  · obtain rfl := Option.some.inj h
    exact trivial
  · exact fits_of_readMagnitude hfmt h

/-! ## Exact results -/

/-- A number of the format is kept by rounding. -/
theorem Rounds.exists_eq {q : ℚ} {x : Binary fmt} (h : Rounds q x) (hgrid : q ∈ fmt.grid) (hq : |q| < fmt.overflow) :
    ∃ s m e, x = .finite s m e ∧ rational s m e = q := by
  obtain ⟨s, m, e, rfl, hnear⟩ := h.exists_finite hq
  exact ⟨s, m, e, rfl, hnear.eq_of_mem hgrid⟩

/-- A finite number is zero exactly if its significand is. -/
theorem rational_eq_zero_iff {s : Bool} {m : Nat} {e : Int} : rational s m e = 0 ↔ m = 0 := by
  have hstep : (2 : ℚ) ^ e ≠ 0 := by positivity
  cases s <;> simp [rational, hstep]

/-- A quotient is rounded once. -/
theorem rounds_div (hfmt : fmt.Proper) (s : Bool) (m : Nat) (e : Int) (t : Bool) {n : Nat} (f : Int) (hn : n ≠ 0) :
    Rounds (rational s m e / rational t n f) ((.finite s m e : Binary fmt) / .finite t n f) := by
  obtain ⟨hx, hxpos⟩ := ratio_eq m e
  obtain ⟨hy, hypos⟩ := ratio_eq n f
  have hnum : 0 < (ratio n f).1 := by
    have hpos : (0 : ℚ) < n * 2 ^ f := by positivity
    rw [← hy] at hpos
    exact_mod_cast (div_pos_iff_of_pos_right (by exact_mod_cast hypos)).1 hpos
  have hdiv : (.finite s m e : Binary fmt) / .finite t n f =
      round (s != t) ((ratio m e).1 * (ratio n f).2) ((ratio m e).2 * (ratio n f).1) := by
    change div _ _ = _
    rw [div, if_neg hn]
  have hvalue : rational s m e / rational t n f = signed (s != t)
      (((ratio m e).1 * (ratio n f).2 : ℕ) / ((ratio m e).2 * (ratio n f).1 : ℕ)) := by
    rw [Nat.cast_mul, Nat.cast_mul, mul_div_mul_comm, ← inv_div ((ratio n f).1 : ℚ), hx, hy, rational_eq, rational_eq]
    cases s <;> cases t <;> simp [signed, div_eq_mul_inv, neg_mul, mul_neg]
  rw [hdiv, hvalue]
  exact (round_spec (s != t) hfmt (Nat.mul_pos hxpos hnum)).2

end Binary

/-! ## Exact numbers -/

namespace BinaryFormat

variable {fmt : BinaryFormat}

/-- Whole numbers up to the precision are represented exactly. -/
theorem int_mem_grid (hexp : fmt.minExp ≤ 0) {i : ℤ} (hi : |i| ≤ 2 ^ fmt.precision) : (i : ℚ) ∈ fmt.grid :=
  ⟨i, 0, hi, hexp, by rw [zpow_zero, mul_one]⟩

/-- The powers of ten that divide the digits of a decimal are represented exactly. -/
theorem ten_pow_mem_grid {n : ℕ} (hn : n ≤ Decimal.places) : (10 : ℚ) ^ n ∈ double.grid := by
  have hfive : (5 : ℤ) ^ n ≤ 5 ^ Decimal.places := pow_le_pow_right₀ (by decide) hn
  refine ⟨5 ^ n, n, ?_, by change -1074 ≤ (n : ℤ); omega, ?_⟩
  · rw [abs_of_nonneg (by positivity)]
    exact hfive.trans (by decide)
  · push_cast
    rw [zpow_natCast, ← mul_pow]
    norm_num

/-- Integers are far from the overflow of single precision. -/
theorem lt_overflow_single : (2 : ℚ) ^ 64 < single.overflow := by
  norm_num [overflow, single]

/-- Exact numbers are far from the overflow of double precision. -/
theorem lt_overflow_double : (2 : ℚ) ^ 128 < double.overflow := by
  have hstep : (2 : ℚ) ^ (77 : ℤ) ≤ 2 ^ double.maxExp := zpow_le_zpow_right₀ one_le_two (by decide)
  refine lt_of_lt_of_le ?_ (mul_le_mul_of_nonneg_left hstep (by norm_num [double]))
  norm_num [double]

/-- The nearest double of zero, or of what is not too small, is as near as 53 bits tell. -/
theorem abs_sub_le_of_nearest_double {x y : ℚ} (h : Nearest double.grid x y) (hx : x = 0 ∨ 2 ^ (-61 : ℤ) ≤ |x|) :
    |y - x| ≤ |x| / 2 ^ 53 := by
  rcases hx with rfl | hx
  · have hgrid : ((0 : ℤ) : ℚ) ∈ double.grid := int_mem_grid (by decide) (by decide)
    rw [h.eq_of_mem (by exact_mod_cast hgrid)]
    norm_num
  · rw [show 53 = double.precision from rfl]
    exact abs_sub_le_of_nearest h ((zpow_le_zpow_right₀ one_le_two (by decide)).trans hx)

end BinaryFormat

namespace Decimal

/-- The rational number that a decimal stands for. -/
def value (d : Decimal) : ℚ := d.units / 10 ^ places

/-- A whole number as a decimal has its own value. -/
theorem value_ofInt (i : ℤ) : (ofInt i).value = i := by
  have hunit : ((ofInt i).units : ℚ) = i * 10 ^ places := by
    change ((i * (Nat.pow 10 places : ℕ) : ℤ) : ℚ) = _
    push_cast [Nat.pow_eq]
    rfl
  rw [value, hunit, mul_div_cancel_right₀ _ (by positivity)]

/-- Decimals are compared by their units as by their values. -/
theorem compare_units (a b : Decimal) : compare a.units b.units = compare a.value b.value := by
  have hlt : ∀ x y : Decimal, x.units < y.units ↔ x.value < y.value := fun x y => by
    rw [value, value, div_lt_div_iff_of_pos_right (by positivity), Int.cast_lt]
  exact compare_congr (hlt a b) (hlt b a)

/-- Reducing the scale keeps the value, and neither the scale nor the digits grow. -/
theorem reduceScale_spec (fuel : ℕ) (i : ℤ) :
    (reduceScale fuel i).2 ≤ fuel ∧ (reduceScale fuel i).1.natAbs ≤ i.natAbs ∧
      ((reduceScale fuel i).1 : ℚ) / 10 ^ (reduceScale fuel i).2 = i / 10 ^ fuel := by
  induction fuel generalizing i with
  | zero => exact ⟨le_rfl, le_rfl, rfl⟩
  | succ fuel ih =>
    rw [reduceScale]
    split
    · rename_i hzero
      obtain ⟨hle, habs, hvalue⟩ := ih (i.tdiv 10)
      have hten : 10 * i.tdiv 10 = i := Int.mul_tdiv_cancel' (Int.dvd_of_tmod_eq_zero hzero)
      have hi : (i : ℚ) = 10 * (i.tdiv 10 : ℤ) := by exact_mod_cast hten.symm
      refine ⟨hle.trans (Nat.le_succ fuel), by omega, ?_⟩
      rw [hvalue, hi, pow_succ', mul_div_mul_left _ _ (by norm_num)]
    · exact ⟨le_rfl, le_rfl, rfl⟩

/-- Digits and scale are rounded and then divided. Only the scale is always exact. -/
theorem rounds_toDouble {d : Decimal} (hfits : fits d.units) :
    ∃ x, Nearest BinaryFormat.double.grid (reduceScale places d.units).1 x ∧
      Binary.Rounds (x / 10 ^ (reduceScale places d.units).2) d.toDouble := by
  obtain ⟨hplaces, habs, -⟩ := reduceScale_spec places d.units
  change ∃ x, _ ∧ Binary.Rounds _ (Binary.ofInt (reduceScale places d.units).1 /
    Binary.ofInt (Nat.pow 10 (reduceScale places d.units).2 : ℕ))
  generalize reduceScale places d.units = p at hplaces habs ⊢
  obtain ⟨i, k⟩ := p
  dsimp only at hplaces habs ⊢
  have hi : |(i : ℚ)| < 2 ^ 128 := by
    have hbound : -(2 ^ 127 : ℤ) ≤ d.units ∧ d.units < 2 ^ 127 := by simpa [fits] using hfits
    have hlt : |i| < 2 ^ 128 := abs_lt.2 ⟨by omega, by omega⟩
    exact_mod_cast hlt
  have hscale : Binary.Rounds ((10 : ℚ) ^ k) (Binary.ofInt (Nat.pow 10 k : ℕ) : Double) := by
    have h := Binary.rounds_ofInt BinaryFormat.proper_double (Nat.pow 10 k : ℕ)
    push_cast [Nat.pow_eq] at h
    exact h
  have hbound : |(10 : ℚ) ^ k| < 2 ^ 128 := by
    rw [abs_of_pos (by positivity)]
    exact (pow_le_pow_right₀ (by norm_num) hplaces).trans_lt (by norm_num [places])
  obtain ⟨s, m, e, hdividend, hnear⟩ := (Binary.rounds_ofInt BinaryFormat.proper_double i).exists_finite
    (hi.trans BinaryFormat.lt_overflow_double)
  obtain ⟨t, n, f, hdivisor, hn⟩ := hscale.exists_eq (BinaryFormat.ten_pow_mem_grid hplaces)
    (hbound.trans BinaryFormat.lt_overflow_double)
  refine ⟨_, hnear, ?_⟩
  rw [hdividend, hdivisor, ← hn]
  refine Binary.rounds_div BinaryFormat.proper_double s m e t f fun hzero => ?_
  rw [Binary.rational_eq_zero_iff.2 hzero] at hn
  exact (by positivity : (0 : ℚ) < 10 ^ k).ne hn

/-- A decimal that has been read fits. -/
theorem fits_of_ofText? {s : String} {d : Decimal} (h : ofText? s = some d) : fits d.units := by
  unfold ofText? at h
  split at h
  obtain ⟨fraction, -, h⟩ := Option.bind_eq_some_iff.1 h
  dsimp only at h
  rw [Option.ite_none_left_eq_some, Option.ite_none_left_eq_some] at h
  obtain ⟨-, -, h⟩ := h
  rw [ofUnits?, Option.ite_none_right_eq_some] at h
  obtain ⟨hfits, h⟩ := h
  obtain rfl := Option.some.inj h
  exact hfits

end Decimal

namespace Numeric

/-- The value of an integer or a decimal. -/
def exactValue? : Numeric → Option ℚ
  | .integer i => some i
  | .decimal d => some d.value
  | _ => none

/-- The digits of an exact number without trailing zeros behind the point, and how many of them are behind it. -/
def digits : Numeric → ℤ × ℕ
  | .integer i => (i, 0)
  | .decimal d => Decimal.reduceScale Decimal.places d.units
  | _ => (0, 0)

/-- The digits and the scale of an exact number give its value. -/
theorem digits_spec {n : Numeric} {q : ℚ} (h : n.exactValue? = some q) :
    n.digits.2 ≤ Decimal.places ∧ q = n.digits.1 / 10 ^ n.digits.2 := by
  cases n with
  | integer i =>
    obtain rfl := Option.some.inj h
    exact ⟨Nat.zero_le _, by rw [digits, pow_zero, div_one]⟩
  | decimal d =>
    obtain rfl := Option.some.inj h
    obtain ⟨hle, -, hvalue⟩ := Decimal.reduceScale_spec Decimal.places d.units
    exact ⟨hle, hvalue.symm⟩
  | single x => cases h
  | double x => cases h

/-- Exact numbers are compared by their values. -/
theorem compare?_exact {m n : Numeric} {q r : ℚ} (hm : m.exactValue? = some q) (hn : n.exactValue? = some r) :
    m.compare? n = some (compare q r) := by
  cases m with
  | integer a =>
    obtain rfl := Option.some.inj hm
    cases n with
    | integer b =>
      obtain rfl := Option.some.inj hn
      exact congrArg some (compare_congr Int.cast_lt.symm Int.cast_lt.symm)
    | decimal b =>
      obtain rfl := Option.some.inj hn
      rw [← Decimal.value_ofInt a, ← Decimal.compare_units]
      rfl
    | _ => cases hn
  | decimal a =>
    obtain rfl := Option.some.inj hm
    cases n with
    | integer b =>
      obtain rfl := Option.some.inj hn
      rw [← Decimal.value_ofInt b, ← Decimal.compare_units]
      rfl
    | decimal b =>
      obtain rfl := Option.some.inj hn
      rw [← Decimal.compare_units]
      rfl
    | _ => cases hn
  | _ => cases hm

/-- The range of the numbers that literals have. -/
def Valid : Numeric → Prop
  | .integer i => fitsInt64 i
  | .decimal d => Decimal.fits d.units
  | .single x => x.Fits
  | .double _ => True

/-- A number that has been read from a literal is valid. -/
theorem valid_of_ofLiteral? {l : Literal} {n : Numeric} (h : ofLiteral? l = some n) : n.Valid := by
  unfold ofLiteral? at h
  dsimp only at h
  split_ifs at h
  · obtain ⟨x, -, rfl⟩ := Option.map_eq_some_iff.1 h
    exact trivial
  · obtain ⟨x, hx, rfl⟩ := Option.map_eq_some_iff.1 h
    exact Binary.fits_of_ofText? BinaryFormat.proper_single hx
  · obtain ⟨d, hd, rfl⟩ := Option.map_eq_some_iff.1 h
    exact Decimal.fits_of_ofText? hd
  · obtain ⟨i, hi, rfl⟩ := Option.map_eq_some_iff.1 h
    exact (readInteger?_eq_some_iff.1 hi).1

/-- A valid integer has less than 64 bits beside its sign. -/
theorem Valid.abs_lt_two_pow {i : ℤ} (h : (integer i).Valid) : |(i : ℚ)| < 2 ^ 64 := by
  have hfits := fitsInt64_iff.1 h
  have habs : |i| < 2 ^ 64 := abs_lt.2 ⟨by omega, by omega⟩
  exact_mod_cast habs

/-- What is on one side of a single-precision number in single precision has a key on that side. -/
theorem compare?_toDouble_of_toSingle {n : Numeric} (hn : n.Valid) {y : Single} (hy : y.Fits) {o : Ordering}
    (ho : o ≠ .eq) (h : n.toSingle.compare? y = some o) : n.toDouble.compare? (single y).toDouble = some o := by
  have hfine := BinaryFormat.double_finer_single
  have hdouble := BinaryFormat.proper_double
  have hsingle := BinaryFormat.proper_single
  cases n with
  | integer i =>
    exact (Binary.rounds_ofInt hsingle i).compare?_finer hfine hdouble (Binary.rounds_ofInt hdouble i)
      (hn.abs_lt_two_pow.trans BinaryFormat.lt_overflow_single) hy ho h
  | decimal d => exact Binary.compare?_of_convert hfine hdouble hsingle hy ho h
  | single x => exact (Binary.compare?_widen hfine hdouble hn hy).trans h
  | double x => exact Binary.compare?_of_convert hfine hdouble hsingle hy ho h

/-! ### Keys of exact numbers -/

/-- An exact number whose digits are rounded only with the whole number: an integer, or a decimal whose digits have at
most 53 bits. -/
def RoundedOnce : Numeric → Prop
  | .decimal d => |(decimal d).digits.1| ≤ 2 ^ 53
  | _ => True

section Exact

variable {n : Numeric} {q : ℚ} (hq : n.exactValue? = some q)
include hq

/-- An exact number is zero or not too near to it. -/
theorem exact_eq_zero_or : q = 0 ∨ 2 ^ (-60 : ℤ) ≤ |q| := by
  obtain ⟨hplaces, hvalue⟩ := digits_spec hq
  by_cases hzero : n.digits.1 = 0
  · exact .inl (by rw [hvalue, hzero, Int.cast_zero, zero_div])
  · have hone : (1 : ℚ) ≤ |(n.digits.1 : ℚ)| := by exact_mod_cast Int.one_le_abs hzero
    have hten : (10 : ℚ) ^ n.digits.2 ≤ 10 ^ Decimal.places := pow_le_pow_right₀ (by norm_num) hplaces
    refine .inr ?_
    calc (2 : ℚ) ^ (-60 : ℤ) ≤ 1 / 10 ^ Decimal.places := by norm_num [Decimal.places]
      _ ≤ |q| := by
        rw [hvalue, abs_div, abs_of_pos (by positivity : (0 : ℚ) < 10 ^ n.digits.2)]
        gcongr

variable (hvalid : n.Valid)
include hvalid

/-- An exact number is not too large. -/
theorem abs_exact_lt : |q| < 2 ^ 127 := by
  cases n with
  | integer i =>
    obtain rfl := Option.some.inj hq
    exact hvalid.abs_lt_two_pow.trans (by norm_num)
  | decimal d =>
    obtain rfl := Option.some.inj hq
    have hbound : -(2 ^ 127 : ℤ) ≤ d.units ∧ d.units < 2 ^ 127 := by simpa [Valid, Decimal.fits] using hvalid
    have habs : |(d.units : ℚ)| ≤ 2 ^ 127 := by exact_mod_cast abs_le.2 ⟨hbound.1, hbound.2.le⟩
    rw [Decimal.value, abs_div, abs_of_pos (by positivity : (0 : ℚ) < 10 ^ Decimal.places), div_lt_iff₀ (by positivity)]
    exact habs.trans_lt (by norm_num [Decimal.places])
  | single x => cases hq
  | double x => cases hq

/-- What is rounded to the key is as near to the number as 53 bits tell. -/
theorem rounds_toDouble :
    ∃ x, Binary.Rounds x n.toDouble ∧ |x - q| ≤ |q| / 2 ^ 53 ∧ (n.RoundedOnce → x = q) := by
  cases n with
  | integer i =>
    obtain rfl := Option.some.inj hq
    refine ⟨i, Binary.rounds_ofInt BinaryFormat.proper_double i, ?_, fun _ => rfl⟩
    rw [sub_self, abs_zero]
    positivity
  | decimal d =>
    obtain ⟨a, hnear, hrounds⟩ := Decimal.rounds_toDouble hvalid
    obtain ⟨-, rfl⟩ := digits_spec hq
    refine ⟨_, hrounds, ?_, fun honce => ?_⟩
    · change |a / 10 ^ (decimal d).digits.2 - _| ≤ _
      change Nearest BinaryFormat.double.grid (decimal d).digits.1 a at hnear
      have hpos : (0 : ℚ) < 10 ^ (decimal d).digits.2 := by positivity
      have hdigits : ((decimal d).digits.1 : ℚ) = 0 ∨ 2 ^ (-61 : ℤ) ≤ |((decimal d).digits.1 : ℚ)| := by
        rcases eq_or_ne (decimal d).digits.1 0 with hzero | hzero
        · exact .inl (by exact_mod_cast hzero)
        · have hone : (1 : ℚ) ≤ |((decimal d).digits.1 : ℚ)| := by exact_mod_cast Int.one_le_abs hzero
          exact .inr ((zpow_le_one_of_nonpos₀ one_le_two (by decide)).trans hone)
      rw [← sub_div, abs_div, abs_div, abs_of_pos hpos, div_right_comm]
      exact div_le_div_of_nonneg_right (BinaryFormat.abs_sub_le_of_nearest_double hnear hdigits) hpos.le
    · rw [hnear.eq_of_mem (BinaryFormat.int_mem_grid (by decide) honce)]
      rfl
  | single x => cases hq
  | double x => cases hq

/-- The key is as near to the number as 51 bits tell. -/
theorem abs_toDouble_sub_le :
    ∃ s m e, n.toDouble = .finite s m e ∧ |Binary.rational s m e - q| ≤ |q| / 2 ^ 51 := by
  obtain ⟨x, hrounds, hx, -⟩ := rounds_toDouble hq hvalid
  have hbound := abs_exact_lt hq hvalid
  have hsize : |x| - |q| ≤ |x - q| := abs_sub_abs_le_abs_sub x q
  have hsize' : |q| - |x| ≤ |x - q| := abs_sub_comm x q ▸ abs_sub_abs_le_abs_sub q x
  obtain ⟨s, m, e, hkey, hnear⟩ := hrounds.exists_finite
    ((by linarith : |x| < 2 ^ 128).trans BinaryFormat.lt_overflow_double)
  refine ⟨s, m, e, hkey, ?_⟩
  have hnormal : x = 0 ∨ 2 ^ (-61 : ℤ) ≤ |x| := by
    rcases exact_eq_zero_or hq with rfl | hmin
    · rw [sub_zero, abs_zero, zero_div] at hx
      exact .inl (abs_nonpos_iff.1 hx)
    · refine .inr ?_
      have hhalf : (2 : ℚ) ^ (-60 : ℤ) = 2 * 2 ^ (-61 : ℤ) := by norm_num
      linarith
  have hround := BinaryFormat.abs_sub_le_of_nearest_double hnear hnormal
  have htriangle := abs_sub_le (Binary.rational s m e) x q
  linarith

end Exact

/-- Two exact numbers that are farther apart than rounding moves them. -/
def FarApart (m n : Numeric) : Prop :=
  ∃ q r, m.exactValue? = some q ∧ n.exactValue? = some r ∧ |q| + |r| < 2 ^ 51 * |q - r|

/-- Two exact numbers with different keys, each of them rounded once. -/
def KeysApart (m n : Numeric) : Prop :=
  m.RoundedOnce ∧ n.RoundedOnce ∧ m.toDouble.compare? n.toDouble ≠ some .eq

/-- Numbers that are far apart keep their order as keys. -/
theorem FarApart.compare?_toDouble {m n : Numeric} (h : FarApart m n) (hm : m.Valid) (hn : n.Valid)
    (hlt : m.compare? n = some .lt) : m.toDouble.compare? n.toDouble = some .lt := by
  obtain ⟨q, r, hq, hr, hfar⟩ := h
  rw [compare?_exact hq hr, Option.some.injEq, compare_lt_iff_lt] at hlt
  obtain ⟨s, k, e, hkey, hnear⟩ := abs_toDouble_sub_le hq hm
  obtain ⟨t, l, f, hkey', hnear'⟩ := abs_toDouble_sub_le hr hn
  rw [hkey, hkey', Binary.compare?_finite, Option.some.injEq, compare_lt_iff_lt]
  rw [abs_sub_comm q, abs_of_pos (sub_pos.2 hlt)] at hfar
  have hup := (abs_le.1 hnear).2
  have hdown := (abs_le.1 hnear').1
  linarith

/-- Numbers with different keys, each rounded once, keep their order as keys. -/
theorem KeysApart.compare?_toDouble {m n : Numeric} (hkeys : KeysApart m n) (hm : m.Valid) (hn : n.Valid) {q r : ℚ}
    (hq : m.exactValue? = some q) (hr : n.exactValue? = some r) (hlt : q < r) :
    m.toDouble.compare? n.toDouble = some .lt := by
  obtain ⟨honce, honce', hne⟩ := hkeys
  obtain ⟨x, hrounds, -, hx⟩ := rounds_toDouble hq hm
  obtain ⟨y, hrounds', -, hy⟩ := rounds_toDouble hr hn
  obtain rfl := hx honce
  obtain rfl := hy honce'
  have hoverflow : (2 : ℚ) ^ 127 < BinaryFormat.double.overflow :=
    (by norm_num : (2 : ℚ) ^ 127 < 2 ^ 128).trans BinaryFormat.lt_overflow_double
  exact hrounds.compare?_of_lt hrounds' ((abs_exact_lt hq hm).trans hoverflow) ((abs_exact_lt hr hn).trans hoverflow)
    hlt hne

/-- Different exact numbers that share a key have the same one in the total order, too: the zeros are told apart. -/
theorem order_toDouble_of_eq {m n : Numeric} (hm : m.Valid) (hn : n.Valid) {q r : ℚ} (hq : m.exactValue? = some q)
    (hr : n.exactValue? = some r) (hne : q ≠ r) (h : m.toDouble.compare? n.toDouble = some .eq) :
    Double.order m.toDouble n.toDouble = .eq := by
  obtain ⟨s, k, e, hkey, hnear⟩ := abs_toDouble_sub_le hq hm
  obtain ⟨t, l, f, hkey', hnear'⟩ := abs_toDouble_sub_le hr hn
  rw [hkey, hkey', Binary.compare?_finite, Option.some.injEq, compare_eq_iff_eq] at h
  have hzero : Binary.rational s k e ≠ 0 := by
    intro hzero
    have hsmall : ∀ x : ℚ, |0 - x| ≤ |x| / 2 ^ 51 → x = 0 := by
      intro x hx
      rw [zero_sub, abs_neg] at hx
      exact abs_nonpos_iff.1 (by linarith)
    rw [hzero] at hnear h
    rw [← h] at hnear'
    exact hne ((hsmall q hnear).trans (hsmall r hnear').symm)
  change Binary.totalCompare m.toDouble n.toDouble = .eq
  rw [hkey, hkey']
  exact Binary.totalCompare_of_rational_eq h hzero

/-- The keys of two numbers are in the order of the numbers, unless both are exact, close to each other, and share a key
or are not rounded once. -/
theorem compare?_toDouble {m n : Numeric} (hm : m.Valid) (hn : n.Valid) (h : m.compare? n = some .lt)
    (hexact : m.exactValue?.isSome → n.exactValue?.isSome → FarApart m n ∨ KeysApart m n) :
    m.toDouble.compare? n.toDouble = some .lt := by
  have hboth : ∀ q r, m.exactValue? = some q → n.exactValue? = some r → m.toDouble.compare? n.toDouble = some .lt := by
    intro q r hq hr
    rcases hexact (Option.isSome_of_eq_some hq) (Option.isSome_of_eq_some hr) with hfar | hkeys
    · exact hfar.compare?_toDouble hm hn h
    · rw [compare?_exact hq hr, Option.some.injEq, compare_lt_iff_lt] at h
      exact hkeys.compare?_toDouble hm hn hq hr h
  cases n with
  | double y => cases m <;> exact h
  | single y =>
    cases m with
    | double x => exact h
    | _ => exact compare?_toDouble_of_toSingle hm hn (by decide) h
  | integer b =>
    cases m with
    | double x => exact h
    | single x =>
      exact Binary.compare?_swap_of_eq (compare?_toDouble_of_toSingle hn hm (by decide) (Binary.compare?_swap_of_eq h))
    | _ => exact hboth _ _ rfl rfl
  | decimal b =>
    cases m with
    | double x => exact h
    | single x =>
      exact Binary.compare?_swap_of_eq (compare?_toDouble_of_toSingle hn hm (by decide) (Binary.compare?_swap_of_eq h))
    | _ => exact hboth _ _ rfl rfl

/-! ### Few digits -/

/-- Different decimals with at most fifteen digits in the finer one are far apart. -/
theorem add_abs_lt {i j : ℤ} {a b : ℕ} (hab : a ≤ b) (hne : (i / 10 ^ a : ℚ) ≠ j / 10 ^ b) (hdigits : |j| ≤ 10 ^ 15) :
    |(i / 10 ^ a : ℚ)| + |(j / 10 ^ b : ℚ)| < 2 ^ 51 * |(i / 10 ^ a - j / 10 ^ b : ℚ)| := by
  have hpos : (0 : ℚ) < 10 ^ b := by positivity
  have hshift : (i / 10 ^ a : ℚ) = ((i * 10 ^ (b - a) : ℤ) : ℚ) / 10 ^ b := by
    rw [← Nat.sub_add_cancel hab, pow_add, Nat.add_sub_cancel, div_eq_div_iff (by positivity) (by positivity)]
    push_cast
    ring
  rw [hshift] at hne ⊢
  generalize i * 10 ^ (b - a) = k at hne ⊢
  have hone : (1 : ℚ) ≤ |(k - j : ℚ)| := by
    exact_mod_cast Int.one_le_abs (sub_ne_zero.2 fun h => hne (by rw [h]))
  have hsmall : |(j : ℚ)| ≤ 10 ^ 15 := by exact_mod_cast hdigits
  have hsize : |(k : ℚ)| - |(j : ℚ)| ≤ |(k - j : ℚ)| := abs_sub_abs_le_abs_sub _ _
  rw [← sub_div, abs_div, abs_div, abs_div, abs_of_pos hpos, ← add_div, ← mul_div_assoc,
    div_lt_div_iff_of_pos_right hpos]
  linarith

/-- Different exact numbers of at most fifteen digits are far apart. -/
theorem farApart_of_digits {m n : Numeric} {q r : ℚ} (hq : m.exactValue? = some q) (hr : n.exactValue? = some r)
    (hdigits : |m.digits.1| ≤ 10 ^ 15) (hdigits' : |n.digits.1| ≤ 10 ^ 15) (hne : q ≠ r) : FarApart m n := by
  refine ⟨q, r, hq, hr, ?_⟩
  rw [(digits_spec hq).2, (digits_spec hr).2] at hne ⊢
  rcases le_total m.digits.2 n.digits.2 with hle | hle
  · exact add_abs_lt hle hne hdigits'
  · rw [add_comm, abs_sub_comm]
    exact add_abs_lt hle hne.symm hdigits

end Numeric

end SparqlAlgebra

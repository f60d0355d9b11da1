import SparqlAlgebra.Proofs.Number.Compare

/-!
# Integers in a binary format

An integer with no more bits than a format is a number of the format, so no operation that yields it has to round it.
Integers are exact as long as all sums stay in that range.
-/

namespace SparqlAlgebra

namespace BinaryFormat

variable {fmt : BinaryFormat}

/-- The last bit of a number may count ones, so that the integers with as many bits as a significand are numbers of the
format. -/
structure HasIntegers (fmt : BinaryFormat) : Prop where
  /-- A number has a significant bit. -/
  precision : 0 < fmt.precision
  /-- The least exponent is not above zero. -/
  minExp : fmt.minExp ≤ 0
  /-- The greatest exponent is not below zero. -/
  maxExp : 0 ≤ fmt.maxExp

/-- The format of doubles has integers. -/
theorem hasIntegers_double : HasIntegers double := ⟨by decide, by decide, by decide⟩

namespace HasIntegers

variable (h : fmt.HasIntegers) {i : ℤ}
include h

/-- A format that has integers is a proper one. -/
theorem proper : fmt.Proper := ⟨h.precision, h.minExp.trans h.maxExp⟩

/-- An integer in the range of the significand is a number of the format. -/
theorem mem_grid (hi : |i| < 2 ^ fmt.precision) : (i : ℚ) ∈ fmt.grid :=
  ⟨i, 0, hi.le, h.minExp, by rw [zpow_zero, mul_one]⟩

/-- An integer in the range of the significand does not overflow. -/
theorem abs_lt_overflow (hi : |i| < 2 ^ fmt.precision) : |(i : ℚ)| < fmt.overflow := by
  have hcount : |(i : ℚ)| + 1 ≤ 2 ^ fmt.precision := by exact_mod_cast hi
  have hstep : (1 : ℚ) ≤ 2 ^ fmt.maxExp := one_le_zpow₀ one_le_two h.maxExp
  calc |(i : ℚ)| < 2 ^ fmt.precision - 1 / 2 := by linarith
    _ ≤ fmt.overflow := le_mul_of_one_le_right (by linarith [abs_nonneg (i : ℚ)]) hstep

end HasIntegers

end BinaryFormat

namespace Binary

variable {fmt : BinaryFormat} {x y : Binary fmt} {i j : ℤ} {s : Bool} {m : ℕ} {e : ℤ}

/-- The number is finite and has an integer as its exact value. -/
def IsInteger (x : Binary fmt) (i : ℤ) : Prop := ∃ s m e, x = .finite s m e ∧ rational s m e = i

/-- A number that is rounded from an integer in the range of the format is that integer. -/
theorem Rounds.isInteger (hfmt : fmt.HasIntegers) (hx : Rounds (i : ℚ) x) (hi : |i| < 2 ^ fmt.precision) :
    x.IsInteger i := by
  obtain ⟨s, m, e, hfinite, hnear⟩ := hx.exists_finite (hfmt.abs_lt_overflow hi)
  exact ⟨s, m, e, hfinite, hnear.eq_of_mem (hfmt.mem_grid hi)⟩

/-- An integer below the precision is represented exactly. -/
theorem isInteger_ofInt (hfmt : fmt.HasIntegers) (hi : |i| < 2 ^ fmt.precision) : (ofInt i : Binary fmt).IsInteger i :=
  (rounds_ofInt hfmt.proper i).isInteger hfmt hi

/-- The sign and the size of a number with an integer as its value are those of the integer. -/
theorem signed_natAbs_of_rational_eq (h : rational s m e = i) :
    (m : ℚ) * 2 ^ e = i.natAbs ∧ signed s (i.natAbs : ℚ) = i := by
  have hnonneg : (0 : ℚ) ≤ m * 2 ^ e := by positivity
  have habs : (m : ℚ) * 2 ^ e = i.natAbs := by
    rw [Nat.cast_natAbs, Int.cast_abs, ← h, rational_eq]
    cases s with
    | false => exact (abs_of_nonneg hnonneg).symm
    | true => exact ((abs_neg _).trans (abs_of_nonneg hnonneg)).symm
  exact ⟨habs, by rw [← habs, ← rational_eq, h]⟩

/-- The significand of an integer is a multiple of the denominator that the exponent stands for. -/
theorem ratio_of_rational_eq (h : rational s m e = i) : (ratio m e).1 = i.natAbs * (ratio m e).2 := by
  obtain ⟨hratio, hden⟩ := ratio_eq m e
  have hdenq : ((ratio m e).2 : ℚ) ≠ 0 := by exact_mod_cast hden.ne'
  have hcast : ((ratio m e).1 : ℚ) = i.natAbs * (ratio m e).2 := by
    rw [← (signed_natAbs_of_rational_eq h).1, ← hratio, div_mul_cancel₀ _ hdenq]
  exact_mod_cast hcast

/-- Cutting it off at the point gives the integer back. -/
theorem IsInteger.truncate? (hx : x.IsInteger i) : x.truncate? = some i := by
  obtain ⟨s, m, e, rfl, hvalue⟩ := hx
  have hratio := ratio_of_rational_eq hvalue
  have hsign : (if s then -(i.natAbs : ℤ) else i.natAbs) = i := by
    have hsigned := (signed_natAbs_of_rational_eq hvalue).2
    cases s with
    | false => exact Int.cast_injective (α := ℚ) ((Int.cast_natCast _).trans hsigned)
    | true => exact Int.cast_injective (α := ℚ) ((Int.cast_neg _).trans hsigned)
  unfold ratio at hratio
  rw [Binary.truncate?]
  by_cases he : e < 0
  · rw [if_pos he] at hratio
    have hdiv : (m : ℤ) / (Nat.pow 2 e.natAbs : ℕ) = i.natAbs := by
      exact_mod_cast Nat.div_eq_of_eq_mul_left (Nat.pow_pos two_pos) hratio
    simp only [if_pos he, hdiv, hsign]
  · rw [if_neg he] at hratio
    have hmul : (m : ℤ) * (Nat.pow 2 e.natAbs : ℕ) = i.natAbs := by
      exact_mod_cast hratio.trans (mul_one _)
    simp only [if_neg he, hmul, hsign]

/-- Rounding to an integer leaves an integer alone. -/
theorem IsInteger.roundHalfAway (hfmt : fmt.HasIntegers) (hx : x.IsInteger i) (hi : |i| < 2 ^ fmt.precision) :
    x.roundHalfAway.IsInteger i := by
  obtain ⟨s, m, e, rfl, hvalue⟩ := hx
  rw [Binary.roundHalfAway]
  by_cases he : e < 0
  · have hm : m = i.natAbs * Nat.pow 2 e.natAbs := by
      have hratio := ratio_of_rational_eq hvalue
      rwa [ratio, if_pos he] at hratio
    -- Half a denominator more does not reach the next multiple of it.
    have hdiv : (2 * m + Nat.pow 2 e.natAbs) / (2 * Nat.pow 2 e.natAbs) = i.natAbs := by
      have hpos : 0 < Nat.pow 2 e.natAbs := Nat.pow_pos two_pos
      have hsplit : 2 * m + Nat.pow 2 e.natAbs = Nat.pow 2 e.natAbs + 2 * Nat.pow 2 e.natAbs * i.natAbs := by
        rw [hm]
        ring
      rw [hsplit, Nat.add_mul_div_left _ _ (Nat.mul_pos two_pos hpos), Nat.div_eq_of_lt (by omega), zero_add]
    have hsigned : signed s ((i.natAbs : ℚ) / (1 : ℕ)) = i := by
      rw [Nat.cast_one, div_one]
      exact (signed_natAbs_of_rational_eq hvalue).2
    rw [if_pos he]
    dsimp only
    rw [hdiv]
    refine Rounds.isInteger hfmt ?_ hi
    rw [← hsigned]
    exact (round_spec s hfmt.proper one_pos).2
  · rw [if_neg he]
    exact ⟨s, m, e, rfl, hvalue⟩

/-- Integers are added exactly. -/
theorem IsInteger.add (hfmt : fmt.HasIntegers) (hx : x.IsInteger i) (hy : y.IsInteger j)
    (hij : |i + j| < 2 ^ fmt.precision) : (x + y).IsInteger (i + j) := by
  obtain ⟨s, m, e, rfl, hxvalue⟩ := hx
  obtain ⟨t, n, f, rfl, hyvalue⟩ := hy
  obtain ⟨base, hbase⟩ : ∃ base, base = min e f := ⟨_, rfl⟩
  obtain ⟨sum, hsum⟩ : ∃ sum, sum = scaled s m e base + scaled t n f base := ⟨_, rfl⟩
  have hstep : (2 : ℚ) ^ base ≠ 0 := by positivity
  have hvalue : (sum : ℚ) * 2 ^ base = (i + j : ℤ) := by
    have he : base ≤ e := by omega
    have hf : base ≤ f := by omega
    rw [hsum]
    push_cast
    rw [scaled_eq he, scaled_eq hf, hxvalue, hyvalue, zpow_neg]
    field_simp
  change (if scaled s m e (min e f) + scaled t n f (min e f) = 0 then _ else _ : Binary fmt).IsInteger _
  rw [← hbase, ← hsum]
  by_cases hzero : sum = 0
  · rw [if_pos hzero]
    refine ⟨_, 0, fmt.minExp, rfl, ?_⟩
    rw [← hvalue, hzero, rational_eq]
    cases s && t <;> simp [signed]
  · rw [if_neg hzero]
    obtain ⟨hratio, hden⟩ := ratio_eq sum.natAbs base
    have hsigned : signed (sum < 0) (((ratio sum.natAbs base).1 : ℚ) / (ratio sum.natAbs base).2) = (i + j : ℤ) := by
      rw [hratio, ← hvalue, ← signed_natAbs sum]
      cases decide (sum < 0) with
      | false => rfl
      | true => exact (neg_mul _ _).symm
    refine Rounds.isInteger hfmt ?_ hij
    rw [← hsigned]
    exact (round_spec _ hfmt.proper hden).2

end Binary

end SparqlAlgebra

import Mathlib.Data.Int.Log
import Mathlib.Tactic.Linarith
import SparqlAlgebra.Proofs.Value.Order

/-!
# Rounding

The numbers of a binary format lie on a grid, and rounding takes a number to one of the nearest points of the grid. That
is all that is needed to compare rounded numbers: rounding keeps the order, leaves the points of the grid alone, and on
a finer grid it does not lift a number up to a point that it stays below on the coarser one.
-/

namespace SparqlAlgebra

/-- A point of a set that no other is nearer to a number than. -/
structure Nearest (R : Set ℚ) (x y : ℚ) : Prop where
  /-- The point is one of the set. -/
  mem : y ∈ R
  /-- No other point of the set is nearer. -/
  le : ∀ r ∈ R, |y - x| ≤ |r - x|

namespace Nearest

variable {R S : Set ℚ} {x x' y y' z b : ℚ}

/-- A number of the set is the nearest one to itself. -/
theorem of_mem (hx : x ∈ R) : Nearest R x x := ⟨hx, fun r _ => by simp⟩

/-- A number of the set is the only one nearest to itself. -/
theorem eq_of_mem (h : Nearest R x y) (hx : x ∈ R) : y = x := by
  have hle := h.le x hx
  rw [sub_self, abs_zero] at hle
  exact sub_eq_zero.1 (abs_nonpos_iff.1 hle)

/-- Of two numbers, the smaller one does not have a greater nearest point. -/
theorem mono (h : Nearest R x y) (h' : Nearest R x' y') (hlt : x < x') : y ≤ y' := by
  by_contra hy
  have hx := h.le y' h'.mem
  have hx' := h'.le y h.mem
  rcases abs_cases (y - x) with hc | hc <;> rcases abs_cases (y' - x) with hd | hd <;>
    rcases abs_cases (y - x') with he | he <;> rcases abs_cases (y' - x') with hf | hf <;> linarith

/-- What is nearest does not fall below a bound of the set. -/
theorem le_of_le (h : Nearest R x y) (hb : b ∈ R) (hle : b ≤ x) : b ≤ y := by
  rcases hle.lt_or_eq with hlt | rfl
  · exact (of_mem hb).mono h hlt
  · exact (h.eq_of_mem hb).ge

/-- What is nearest does not rise above a bound of the set. -/
theorem ge_of_ge (h : Nearest R x y) (hb : b ∈ R) (hle : x ≤ b) : y ≤ b := by
  rcases hle.lt_or_eq with hlt | rfl
  · exact h.mono (of_mem hb) hlt
  · exact (h.eq_of_mem hb).le

/-- In a set with all opposite numbers the nearest one to the opposite number is opposite. -/
theorem neg (h : Nearest R x y) (hR : ∀ r ∈ R, -r ∈ R) : Nearest R (-x) (-y) := by
  refine ⟨hR y h.mem, fun r hr => ?_⟩
  have hle := h.le (-r) (hR r hr)
  rwa [neg_sub_neg, abs_sub_comm, show r - -x = -(-r - x) by ring, abs_neg]

/-- A number that stays below a point on a grid also stays below it on a finer grid, if that has a point between any
two of the other. -/
theorem lt_of_lt (hsub : R ⊆ S) (hbetween : ∀ r ∈ R, ∀ t ∈ R, r < t → ∃ d ∈ S, r < d ∧ d < t)
    (hy : Nearest R x y) (hz : Nearest S x z) (hb : b ∈ R) (hlt : y < b) : z < b := by
  by_contra hbz
  have hx : x < b := by
    by_contra hbx
    exact absurd (hy.le_of_le hb (not_lt.1 hbx)) (not_le.2 hlt)
  obtain rfl : z = b := le_antisymm (hz.ge_of_ge (hsub hb) hx.le) (not_lt.1 hbz)
  -- Both points are nearest on the finer grid, so any point between them would be nearer.
  obtain ⟨d, hd, hyd, hdz⟩ := hbetween y hy.mem z hb hlt
  have hyz := hy.le z hb
  have hzy := hz.le y (hsub hy.mem)
  have hzd := hz.le d hd
  rcases abs_cases (y - x) with he | he <;> rcases abs_cases (z - x) with hf | hf <;>
    rcases abs_cases (d - x) with hg | hg <;> linarith

/-- Rounded to a finer set, a number stays above every bound that it is above in the coarser set. -/
theorem lt_of_gt (hneg : ∀ r ∈ R, -r ∈ R) (hneg' : ∀ r ∈ S, -r ∈ S) (hsub : R ⊆ S)
    (hbetween : ∀ r ∈ R, ∀ t ∈ R, r < t → ∃ d ∈ S, r < d ∧ d < t)
    (hy : Nearest R x y) (hz : Nearest S x z) (hb : b ∈ R) (hlt : b < y) : b < z :=
  neg_lt_neg_iff.1 <|
    lt_of_lt hsub hbetween (hy.neg hneg) (hz.neg hneg') (hneg b hb) (neg_lt_neg hlt)

end Nearest

/-! ## The grid of a format -/

namespace BinaryFormat

variable {fmt fine : BinaryFormat}

/-- There is a bit, and there is an exponent for it. -/
structure Proper (fmt : BinaryFormat) : Prop where
  /-- A number has a significant bit. -/
  precision : 0 < fmt.precision
  /-- There is an exponent. -/
  exponents : fmt.minExp ≤ fmt.maxExp

/-- The format of floats is a proper one. -/
theorem proper_single : Proper single := ⟨by decide, by decide⟩

/-- The format of doubles is a proper one. -/
theorem proper_double : Proper double := ⟨by decide, by decide⟩

/-- From here on rounding gives an infinity. -/
def overflow (fmt : BinaryFormat) : ℚ := (2 ^ fmt.precision - 1 / 2) * 2 ^ fmt.maxExp

/-- The numbers with as many significant bits as a format has, as far down as it reaches, and without an upper bound. -/
def grid (fmt : BinaryFormat) : Set ℚ :=
  { x | ∃ n e : ℤ, |n| ≤ 2 ^ fmt.precision ∧ fmt.minExp ≤ e ∧ x = n * 2 ^ e }

/-- The opposite of a number of the format is a number of the format. -/
theorem neg_mem_grid {x : ℚ} (h : x ∈ fmt.grid) : -x ∈ fmt.grid := by
  obtain ⟨n, e, hn, he, rfl⟩ := h
  exact ⟨-n, e, by rwa [abs_neg], he, by push_cast; ring⟩

/-- A multiple of a step is one of every smaller step. -/
theorem mul_zpow_of_le (n : ℤ) {e f : ℤ} (h : e ≤ f) :
    (n : ℚ) * 2 ^ f = ((n * 2 ^ (f - e).toNat : ℤ) : ℚ) * 2 ^ e := by
  have hexp : ((f - e).toNat : ℤ) + e = f := by omega
  push_cast
  rw [mul_assoc, ← zpow_natCast, ← zpow_add₀ two_ne_zero, hexp]

/-- One format has more significant bits than another one and reaches farther down and up. -/
structure Finer (fine fmt : BinaryFormat) : Prop where
  /-- The finer format has more significant bits. -/
  precision : fmt.precision + 2 ≤ fine.precision
  /-- It reaches farther down. -/
  minExp : fine.minExp < fmt.minExp
  /-- It reaches farther up. -/
  maxExp : fmt.maxExp ≤ fine.maxExp

/-- Doubles are finer than floats. -/
theorem double_finer_single : Finer double single := ⟨by decide, by decide, by decide⟩

namespace Finer

variable (h : Finer fine fmt)
include h

/-- The finer format has room for two more bits. -/
theorem pow_le : (2 : ℤ) ^ (fmt.precision + 2) ≤ 2 ^ fine.precision :=
  pow_le_pow_right₀ (by decide) h.precision

/-- All numbers of a format are numbers of a finer one. -/
theorem grid_subset : fmt.grid ⊆ fine.grid := by
  rintro x ⟨n, e, hn, he, rfl⟩
  have hpow := h.pow_le
  have hpos : (0 : ℤ) < 2 ^ fmt.precision := by positivity
  exact ⟨n, e, by rw [pow_add] at hpow; omega, by have := h.minExp; omega, rfl⟩

/-- A finer format overflows no earlier. -/
theorem overflow_le : fmt.overflow ≤ fine.overflow := by
  have hpow : (2 : ℚ) ^ fmt.precision ≤ 2 ^ fine.precision :=
    pow_le_pow_right₀ one_le_two (by have := h.precision; omega)
  have hstep : (2 : ℚ) ^ fmt.maxExp ≤ 2 ^ fine.maxExp := zpow_le_zpow_right₀ one_le_two h.maxExp
  have hone : (1 : ℚ) ≤ 2 ^ fine.precision := one_le_pow₀ one_le_two
  exact mul_le_mul (by linarith) hstep (by positivity) (by linarith)

/-- An odd number of half steps is on the finer grid. -/
theorem halves_mem_grid {n e k : ℤ} (hn : |n| ≤ 2 ^ fmt.precision) (he : fmt.minExp ≤ e) (hk : |k| ≤ 1) :
    ((2 * n + k : ℤ) : ℚ) * 2 ^ (e - 1) ∈ fine.grid := by
  have hpow := h.pow_le
  have hone : (1 : ℤ) ≤ 2 ^ fmt.precision := one_le_pow₀ (by decide)
  have hexp := h.minExp
  refine ⟨2 * n + k, e - 1, ?_, by omega, rfl⟩
  rw [pow_add] at hpow
  rw [abs_le] at hn hk ⊢
  constructor
  · omega
  · omega

/-- Half a step from the one of two numbers that has the smaller step, there is a number of the finer format. -/
theorem between {x y : ℚ} (hx : x ∈ fmt.grid) (hy : y ∈ fmt.grid) (hlt : x < y) :
    ∃ d ∈ fine.grid, x < d ∧ d < y := by
  obtain ⟨n, e, hn, he, rfl⟩ := hx
  obtain ⟨m, f, hm, hf, rfl⟩ := hy
  have hhalf : ∀ g : ℤ, (0 : ℚ) < 2 ^ (g - 1) ∧ (2 : ℚ) ^ g = 2 * 2 ^ (g - 1) := by
    intro g
    refine ⟨by positivity, ?_⟩
    rw [← zpow_one_add₀ two_ne_zero, add_sub_cancel]
  rcases le_total e f with hef | hfe
  · rw [mul_zpow_of_le m hef] at hlt ⊢
    obtain ⟨hpos, htwo⟩ := hhalf e
    have hk : n + 1 ≤ m * 2 ^ (f - e).toNat := by
      have hcast := lt_of_mul_lt_mul_right hlt (by positivity)
      exact_mod_cast hcast
    refine ⟨_, h.halves_mem_grid (k := 1) hn he (by decide), ?_, ?_⟩
    · rw [htwo]
      push_cast
      linarith
    · have hkq : (n : ℚ) + 1 ≤ ((m * 2 ^ (f - e).toNat : ℤ) : ℚ) := by exact_mod_cast hk
      rw [htwo]
      push_cast at hkq ⊢
      nlinarith
  · rw [mul_zpow_of_le n hfe] at hlt ⊢
    obtain ⟨hpos, htwo⟩ := hhalf f
    have hk : n * 2 ^ (e - f).toNat + 1 ≤ m := by
      have hcast := lt_of_mul_lt_mul_right hlt (by positivity)
      exact_mod_cast hcast
    refine ⟨_, h.halves_mem_grid (k := -1) hm hf (by decide), ?_, ?_⟩
    · have hkq : ((n * 2 ^ (e - f).toNat : ℤ) : ℚ) + 1 ≤ m := by exact_mod_cast hk
      rw [htwo]
      push_cast at hkq ⊢
      nlinarith
    · rw [htwo]
      push_cast
      linarith

end Finer

section Steps

variable {x : ℚ} {l e k : ℤ} (hl : 2 ^ l ≤ x) (hu : x < 2 ^ (l + 1))
  (he : e = max (l - ((fmt.precision : ℤ) - 1)) fmt.minExp) (hk : |(k : ℚ) - x / 2 ^ e| ≤ 1 / 2)
include hl hu he hk

/-- The nearest count of steps has no more bits than the format. -/
theorem count_mem : 0 ≤ k ∧ k ≤ 2 ^ fmt.precision := by
  have hstep : (0 : ℚ) < 2 ^ e := by positivity
  have hprecision : x / 2 ^ e < 2 ^ fmt.precision := by
    rw [div_lt_iff₀ hstep, ← zpow_natCast, ← zpow_add₀ two_ne_zero]
    refine hu.trans_le (zpow_le_zpow_right₀ one_le_two ?_)
    omega
  have hnonneg : 0 ≤ x / 2 ^ e := div_nonneg ((zpow_nonneg two_pos.le l).trans hl) hstep.le
  rw [abs_le] at hk
  have hup : (k : ℚ) < (2 ^ fmt.precision + 1 : ℤ) := by
    push_cast
    linarith
  have hdown : ((-1 : ℤ) : ℚ) < k := by
    push_cast
    linarith
  exact ⟨Int.cast_lt.1 hdown, Int.lt_add_one_iff.1 (Int.cast_lt.1 hup)⟩

/-- A number between two powers of two, counted in steps of its last bit and taken to the nearest count, has become one
of the nearest points of the grid. -/
theorem nearest_grid (hfmt : fmt.Proper) : Nearest fmt.grid x (k * 2 ^ e) := by
  have hp := hfmt.precision
  have hstep : (0 : ℚ) < 2 ^ e := by positivity
  -- Among the multiples of the step none is nearer.
  have hmultiple : ∀ j : ℤ, |(k : ℚ) * 2 ^ e - x| ≤ |(j : ℚ) * 2 ^ e - x| := by
    intro j
    have hcount : |(k : ℚ) - x / 2 ^ e| ≤ |(j : ℚ) - x / 2 ^ e| := by
      rcases eq_or_ne j k with rfl | hjk
      · exact le_rfl
      · have hone : (1 : ℚ) ≤ |(j : ℚ) - k| := by exact_mod_cast Int.one_le_abs (sub_ne_zero.2 hjk)
        have htriangle := abs_sub_abs_le_abs_sub ((j : ℚ) - k) (x / 2 ^ e - k)
        rw [sub_sub_sub_cancel_right, abs_sub_comm (x / 2 ^ e)] at htriangle
        linarith
    have hscale : ∀ i : ℤ, (i : ℚ) * 2 ^ e - x = (i - x / 2 ^ e) * 2 ^ e := by
      intro i
      rw [sub_mul, div_mul_cancel₀ _ hstep.ne']
    rw [hscale, hscale, abs_mul, abs_mul]
    exact mul_le_mul_of_nonneg_right hcount (abs_nonneg _)
  obtain ⟨hk0, hkp⟩ := count_mem hl hu he hk
  refine ⟨⟨k, e, by rwa [abs_of_nonneg hk0], by omega, rfl⟩, ?_⟩
  rintro r ⟨n, f, hn, hf, rfl⟩
  rcases le_or_gt e f with hef | hfe
  · rw [mul_zpow_of_le n hef]
    exact hmultiple _
  · -- A point with a smaller step lies below the power of two, which is a multiple of the step.
    have hpower : (2 : ℚ) ^ l = ((2 ^ (fmt.precision - 1) : ℤ) : ℚ) * 2 ^ e := by
      push_cast
      rw [← zpow_natCast, ← zpow_add₀ two_ne_zero]
      congr 1
      omega
    have hbelow : (n : ℚ) * 2 ^ f ≤ 2 ^ l := by
      have hcount : (n : ℚ) ≤ 2 ^ fmt.precision := by exact_mod_cast (le_abs_self n).trans hn
      calc (n : ℚ) * 2 ^ f ≤ 2 ^ fmt.precision * 2 ^ f := by gcongr
        _ = 2 ^ ((fmt.precision : ℤ) + f) := by rw [zpow_add₀ two_ne_zero, zpow_natCast]
        _ ≤ 2 ^ l := zpow_le_zpow_right₀ one_le_two (by omega)
    refine (hmultiple (2 ^ (fmt.precision - 1))).trans ?_
    rw [← hpower, abs_of_nonpos (by linarith), abs_of_nonpos (by linarith)]
    linarith

/-- A count that needs one bit more is halved and the step doubled. If the step gets too great, so is the number. -/
theorem carry_spec (hfmt : fmt.Proper) {m : ℕ} (hm : k = m) :
    ∃ (m' : ℕ) (e' : ℤ), (if m = Nat.pow 2 fmt.precision then (m / 2, e + 1) else (m, e)) = (m', e') ∧
      m' < 2 ^ fmt.precision ∧ fmt.minExp ≤ e' ∧ (m' : ℚ) * 2 ^ e' = m * 2 ^ e ∧
      (fmt.maxExp < e' → fmt.overflow ≤ x) := by
  obtain ⟨hp, hexp⟩ := hfmt
  obtain ⟨-, hle⟩ := count_mem hl hu he hk
  have hle' : m ≤ 2 ^ fmt.precision := by
    rw [hm] at hle
    exact_mod_cast hle
  have hpos : (0 : ℚ) < 2 ^ fmt.precision - 1 / 2 := by
    have hone : (1 : ℚ) ≤ 2 ^ fmt.precision := one_le_pow₀ one_le_two
    linarith
  split
  · rename_i hcarry
    rw [Nat.pow_eq] at hcarry
    obtain ⟨q, hq⟩ : ∃ q, 2 ^ fmt.precision = 2 * q :=
      ⟨2 ^ (fmt.precision - 1), by rw [← pow_succ', Nat.sub_add_cancel hp]⟩
    have hone : 0 < 2 ^ fmt.precision := by positivity
    refine ⟨m / 2, e + 1, rfl, by omega, by omega, ?_, fun hmax => ?_⟩
    · rw [hcarry, hq, Nat.mul_div_cancel_left _ two_pos, zpow_add_one₀ two_ne_zero]
      push_cast
      ring
    · have hstep : (2 : ℚ) ^ fmt.maxExp ≤ 2 ^ e := zpow_le_zpow_right₀ one_le_two (by omega)
      have hcount : (2 : ℚ) ^ fmt.precision - 1 / 2 ≤ x / 2 ^ e := by
        have hbelow := (abs_le.1 hk).2
        rw [hm, hcarry] at hbelow
        push_cast at hbelow
        linarith
      calc fmt.overflow
          ≤ (2 ^ fmt.precision - 1 / 2) * 2 ^ e := mul_le_mul_of_nonneg_left hstep hpos.le
        _ ≤ x := (le_div_iff₀ (by positivity)).1 hcount
  · rename_i hcarry
    rw [Nat.pow_eq] at hcarry
    refine ⟨m, e, rfl, by omega, by omega, rfl, fun hmax => ?_⟩
    calc fmt.overflow
        ≤ 2 ^ fmt.precision * 2 ^ fmt.maxExp := mul_le_mul_of_nonneg_right (by linarith) (by positivity)
      _ = 2 ^ ((fmt.precision : ℤ) + fmt.maxExp) := by rw [zpow_add₀ two_ne_zero, zpow_natCast]
      _ ≤ 2 ^ l := zpow_le_zpow_right₀ one_le_two (by omega)
      _ ≤ x := hl

end Steps

/-- There is a number of the format near every number that is not too small. -/
theorem exists_mem_grid {x : ℚ} (hx : 2 ^ (fmt.minExp + ((fmt.precision : ℤ) - 1)) ≤ x) :
    ∃ r ∈ fmt.grid, |r - x| ≤ x / 2 ^ fmt.precision := by
  have hpos : 0 < x := (zpow_pos two_pos _).trans_le hx
  have hl : (2 : ℚ) ^ Int.log 2 x ≤ x := Int.zpow_log_le_self one_lt_two hpos
  have hu : x < 2 ^ (Int.log 2 x + 1) := Int.lt_zpow_succ_log_self one_lt_two _
  generalize Int.log 2 x = l at hl hu
  have hexp : fmt.minExp + ((fmt.precision : ℤ) - 1) < l + 1 := (zpow_lt_zpow_iff_right₀ one_lt_two).1 (hx.trans_lt hu)
  obtain ⟨e, he⟩ : ∃ e, e = max (l - ((fmt.precision : ℤ) - 1)) fmt.minExp := ⟨_, rfl⟩
  have hk : |(round (x / 2 ^ e) : ℚ) - x / 2 ^ e| ≤ 1 / 2 := by
    rw [abs_sub_comm]
    exact abs_sub_round _
  obtain ⟨hk0, hkp⟩ := count_mem hl hu he hk
  generalize round (x / 2 ^ e) = k at hk hk0 hkp
  have hstep : (0 : ℚ) < 2 ^ e := by positivity
  refine ⟨k * 2 ^ e, ⟨k, e, by rwa [abs_of_nonneg hk0], by omega, rfl⟩, ?_⟩
  have hhalf : 1 / 2 * (2 : ℚ) ^ e = 2 ^ l / 2 ^ fmt.precision := by
    have hle : l = e + fmt.precision - 1 := by omega
    rw [hle, zpow_sub_one₀ two_ne_zero, zpow_add₀ two_ne_zero, zpow_natCast]
    field_simp
  calc |k * 2 ^ e - x| = |k - x / 2 ^ e| * 2 ^ e := by
        rw [← abs_of_pos hstep, ← abs_mul, abs_of_pos hstep, sub_mul, div_mul_cancel₀ _ hstep.ne']
    _ ≤ 1 / 2 * 2 ^ e := mul_le_mul_of_nonneg_right hk hstep.le
    _ ≤ x / 2 ^ fmt.precision := by
        rw [hhalf]
        gcongr

/-- Down to the least number with all significant bits, the nearest number of a format is as near as its bits tell. -/
theorem abs_sub_le_of_nearest {x y : ℚ} (h : Nearest fmt.grid x y)
    (hx : 2 ^ (fmt.minExp + ((fmt.precision : ℤ) - 1)) ≤ |x|) : |y - x| ≤ |x| / 2 ^ fmt.precision := by
  obtain ⟨r, hr, hnear⟩ := exists_mem_grid hx
  rcases abs_choice x with habs | habs
  · rw [habs] at hnear ⊢
    exact (h.le r hr).trans hnear
  · refine (h.le (-r) (neg_mem_grid hr)).trans ?_
    rwa [← abs_neg, neg_sub, sub_neg_eq_add, add_comm, ← sub_neg_eq_add, ← habs]

end BinaryFormat

namespace Binary

/-- Rounding to an integer moves a number by a half at most. -/
theorem abs_roundHalfEven_sub_le (num : Nat) {den : Nat} (hden : 0 < den) :
    |(roundHalfEven num den : ℚ) - num / den| ≤ 1 / 2 := by
  have hpos : (0 : ℚ) < den := by exact_mod_cast hden
  have hsplit : (num : ℚ) / den = (num / den : ℕ) + (num % den : ℕ) / den := by
    have hnat : (num : ℚ) = den * (num / den : ℕ) + (num % den : ℕ) := by exact_mod_cast (Nat.div_add_mod num den).symm
    field_simp
    linarith
  have hmod : 0 ≤ ((num % den : ℕ) : ℚ) / den ∧ ((num % den : ℕ) : ℚ) / den < 1 :=
    ⟨by positivity, (div_lt_one hpos).2 (by exact_mod_cast Nat.mod_lt num hden)⟩
  have hlow : 2 * (num % den) < den ↔ ((num % den : ℕ) : ℚ) / den < 1 / 2 := by
    rw [div_lt_div_iff₀ hpos two_pos, ← Nat.cast_lt (α := ℚ)]
    push_cast
    rw [mul_comm, one_mul]
  have hhigh : 2 * (num % den) > den ↔ 1 / 2 < ((num % den : ℕ) : ℚ) / den := by
    rw [div_lt_div_iff₀ two_pos hpos, gt_iff_lt, ← Nat.cast_lt (α := ℚ)]
    push_cast
    rw [mul_comm, one_mul]
  rw [hsplit, roundHalfEven, abs_le]
  split
  · rename_i h
    have := hlow.1 h
    constructor <;> linarith
  · split
    · rename_i h
      have := hhigh.1 h
      push_cast
      constructor <;> linarith
    · rename_i h h'
      have hge := not_lt.1 (mt hlow.2 h)
      have hle := not_lt.1 (mt hhigh.2 h')
      have hparity : ((num / den % 2 : ℕ) : ℚ) = 0 ∨ ((num / den % 2 : ℕ) : ℚ) = 1 := by
        rcases Nat.mod_two_eq_zero_or_one (num / den) with h | h <;> simp [h]
      push_cast
      rcases hparity with h | h <;> rw [h] <;> constructor <;> linarith

/-- The exponent of the leading bit. -/
theorem log2Ratio_spec {num den : Nat} (hnum : 0 < num) (hden : 0 < den) :
    (2 : ℚ) ^ log2Ratio num den ≤ num / den ∧ (num : ℚ) / den < 2 ^ (log2Ratio num den + 1) := by
  have hn : (0 : ℚ) < num := by exact_mod_cast hnum
  have hd : (0 : ℚ) < den := by exact_mod_cast hden
  have hlog : ∀ k : Nat, 0 < k → (2 : ℚ) ^ (k.log2 : ℤ) ≤ k ∧ (k : ℚ) < 2 ^ ((k.log2 : ℤ) + 1) := by
    intro k hk
    constructor
    · rw [zpow_natCast]
      exact_mod_cast Nat.log2_self_le hk.ne'
    · rw [← Nat.cast_succ, zpow_natCast]
      exact_mod_cast Nat.lt_log2_self
  obtain ⟨hnl, hnu⟩ := hlog num hnum
  obtain ⟨hdl, hdu⟩ := hlog den hden
  have hlow : (2 : ℚ) ^ ((num.log2 : ℤ) - den.log2 - 1) ≤ num / den := by
    rw [le_div_iff₀ hd]
    calc (2 : ℚ) ^ ((num.log2 : ℤ) - den.log2 - 1) * den
        ≤ 2 ^ ((num.log2 : ℤ) - den.log2 - 1) * 2 ^ ((den.log2 : ℤ) + 1) := by gcongr
      _ = 2 ^ (num.log2 : ℤ) := by
        rw [← zpow_add₀ two_ne_zero]
        congr 1
        ring
      _ ≤ num := hnl
  have hhigh : (num : ℚ) / den < 2 ^ ((num.log2 : ℤ) - den.log2 + 1) := by
    rw [div_lt_iff₀ hd]
    calc (num : ℚ) < 2 ^ ((num.log2 : ℤ) + 1) := hnu
      _ = 2 ^ ((num.log2 : ℤ) - den.log2 + 1) * 2 ^ (den.log2 : ℤ) := by
        rw [← zpow_add₀ two_ne_zero]
        congr 1
        ring
      _ ≤ 2 ^ ((num.log2 : ℤ) - den.log2 + 1) * den := by gcongr
  have hreaches : ∀ d : ℤ, (if d < 0 then den ≤ num * Nat.pow 2 d.natAbs else den * Nat.pow 2 d.natAbs ≤ num) ↔
      (2 : ℚ) ^ d ≤ num / den := by
    intro d
    rw [le_div_iff₀ hd]
    split
    · obtain ⟨k, rfl⟩ : ∃ k : ℕ, d = -(k : ℤ) := ⟨d.natAbs, by omega⟩
      have hpos : (0 : ℚ) < 2 ^ k := by positivity
      rw [Int.natAbs_neg, Int.natAbs_natCast, zpow_neg, zpow_natCast, inv_mul_le_iff₀ hpos, mul_comm]
      exact_mod_cast Iff.rfl
    · obtain ⟨k, rfl⟩ : ∃ k : ℕ, d = (k : ℤ) := ⟨d.natAbs, by omega⟩
      rw [Int.natAbs_natCast, zpow_natCast, mul_comm]
      exact_mod_cast Iff.rfl
  by_cases h : (2 : ℚ) ^ ((num.log2 : ℤ) - den.log2) ≤ num / den
  · rw [log2Ratio, if_pos ((hreaches _).2 h)]
    exact ⟨h, hhigh⟩
  · rw [log2Ratio, if_neg (mt (hreaches _).1 h), sub_add_cancel]
    exact ⟨hlow, not_le.1 h⟩

section Round

variable {fmt : BinaryFormat} (neg : Bool) {num den : Nat}

/-- The count of steps that rounding begins with. -/
theorem abs_count_sub_le (num : Nat) (hden : 0 < den) (e : ℤ) :
    |((if e < 0 then roundHalfEven (num * Nat.pow 2 e.natAbs) den
      else roundHalfEven num (den * Nat.pow 2 e.natAbs) : ℕ) : ℚ) - num / den / 2 ^ e| ≤ 1 / 2 := by
  simp only [Nat.pow_eq]
  split
  · obtain ⟨k, rfl⟩ : ∃ k : ℕ, e = -(k : ℤ) := ⟨e.natAbs, by omega⟩
    have h := abs_roundHalfEven_sub_le (num * 2 ^ k) hden
    rw [Nat.cast_mul, Nat.cast_pow, Nat.cast_two, mul_div_right_comm] at h
    rwa [Int.natAbs_neg, Int.natAbs_natCast, zpow_neg, zpow_natCast, div_inv_eq_mul]
  · obtain ⟨k, rfl⟩ : ∃ k : ℕ, e = (k : ℤ) := ⟨e.natAbs, by omega⟩
    have h := abs_roundHalfEven_sub_le num (Nat.mul_pos hden (Nat.pow_pos (n := k) two_pos))
    rw [Nat.cast_mul, Nat.cast_pow, Nat.cast_two, ← div_div] at h
    rwa [Int.natAbs_natCast, zpow_natCast]

/-- A number with a sign. -/
def signed (neg : Bool) (x : ℚ) : ℚ := if neg then -x else x

/-- The exact value of a number is its signed significand, scaled. -/
theorem rational_eq (s : Bool) (m : Nat) (e : Int) : rational s m e = signed s (m * 2 ^ e) := by
  cases s with
  | false => rfl
  | true => exact neg_mul _ _

/-- A finite value has no more bits than its format, and an exponent of the format. -/
def Fits : Binary fmt → Prop
  | .finite _ m e => m < 2 ^ fmt.precision ∧ fmt.minExp ≤ e ∧ e ≤ fmt.maxExp
  | _ => True

/-- A number that fits its format lies on the grid of the format. -/
theorem Fits.mem_grid {s : Bool} {m : Nat} {e : Int} (h : Fits (.finite s m e : Binary fmt)) :
    rational s m e ∈ fmt.grid := by
  have hm : ((m : ℤ) : ℚ) * 2 ^ e ∈ fmt.grid :=
    ⟨m, e, by rw [Nat.abs_cast]; exact_mod_cast h.1.le, h.2.1, rfl⟩
  rw [rational_eq]
  cases s with
  | false => exact hm
  | true => exact BinaryFormat.neg_mem_grid hm

/-- A number has been rounded: to one of the nearest numbers of the format, or to an infinity where it overflows. -/
inductive Rounds (x : ℚ) : Binary fmt → Prop
  | finite {s : Bool} {m : Nat} {e : Int} : Nearest fmt.grid x (rational s m e) → Rounds x (.finite s m e)
  | infinite {s : Bool} : fmt.overflow ≤ signed s x → Rounds x (.infinite s)

/-- Taking the sign twice changes nothing. -/
theorem signed_signed (s : Bool) (x : ℚ) : signed s (signed s x) = x := by
  cases s with
  | false => rfl
  | true => exact neg_neg x

/-- A rounded quotient fits the format, and it is the nearest number of the format unless it overflows. -/
theorem round_spec (hfmt : fmt.Proper) (hden : 0 < den) :
    (round neg num den : Binary fmt).Fits ∧ Rounds (signed neg (num / den)) (round neg num den : Binary fmt) := by
  have hsigned : ∀ {m : ℕ} {e : ℤ}, Nearest fmt.grid (num / den) (m * 2 ^ e) →
      Nearest fmt.grid (signed neg (num / den)) (rational neg m e) := by
    intro m e h
    rw [rational_eq]
    cases neg with
    | false => exact h
    | true => exact h.neg fun _ => BinaryFormat.neg_mem_grid
  have hexp := hfmt.exponents
  by_cases hnum : num = 0
  · rw [round, if_pos hnum, zero]
    refine ⟨⟨by positivity, le_rfl, hexp⟩, .finite (hsigned ?_)⟩
    have hzero : (0 : ℚ) ∈ fmt.grid := ⟨0, fmt.minExp, by simp, le_rfl, by simp⟩
    simpa [hnum] using Nearest.of_mem hzero
  · obtain ⟨hl, hu⟩ := log2Ratio_spec (Nat.pos_of_ne_zero hnum) hden
    have hcount := abs_count_sub_le num hden (max (log2Ratio num den - ((fmt.precision : ℤ) - 1)) fmt.minExp)
    rw [round, if_neg hnum]
    dsimp only
    generalize (if max (log2Ratio num den - ((fmt.precision : ℤ) - 1)) fmt.minExp < 0 then _ else _ : ℕ) = m at hcount ⊢
    generalize he : max (log2Ratio num den - ((fmt.precision : ℤ) - 1)) fmt.minExp = e at hcount ⊢
    have hcount' : |((m : ℤ) : ℚ) - num / den / 2 ^ e| ≤ 1 / 2 := by exact_mod_cast hcount
    have hnear : Nearest fmt.grid (num / den) (m * 2 ^ e) := by
      exact_mod_cast BinaryFormat.nearest_grid hl hu he.symm hcount' hfmt
    obtain ⟨m', e', hcarry, hm', he', hvalue, hmax⟩ := BinaryFormat.carry_spec hl hu he.symm hcount' hfmt rfl
    rw [hcarry]
    dsimp only
    rw [← hvalue] at hnear
    by_cases hgt : e' > fmt.maxExp
    · rw [if_pos hgt]
      exact ⟨trivial, .infinite (by rw [signed_signed]; exact hmax hgt)⟩
    · rw [if_neg hgt]
      by_cases hzero : m' = 0
      · rw [if_pos hzero]
        refine ⟨⟨by positivity, le_rfl, hexp⟩, .finite (hsigned ?_)⟩
        simpa [hzero] using hnear
      · rw [if_neg hzero]
        exact ⟨⟨hm', he', not_lt.1 hgt⟩, .finite (hsigned hnear)⟩

end Round

/-- An integer is its signed size. -/
theorem signed_natAbs (i : ℤ) : signed (i < 0) (i.natAbs : ℚ) = i := by
  rw [Nat.cast_natAbs]
  by_cases hi : i < 0
  · simp [signed, hi, abs_of_neg hi]
  · simp [signed, hi, abs_of_nonneg (not_lt.1 hi)]

/-- Converting an integer rounds it. -/
theorem rounds_ofInt (hfmt : fmt.Proper) (i : Int) : Rounds (i : ℚ) (ofInt i : Binary fmt) := by
  have hsigned : signed (i < 0) ((i.natAbs : ℚ) / (1 : ℕ)) = i := by rw [Nat.cast_one, div_one, signed_natAbs]
  rw [← hsigned]
  exact (round_spec _ hfmt one_pos).2

/-! ## Conversions -/

section Convert

variable {fmt fine : BinaryFormat} {s : Bool} {m : Nat} {e : Int}

/-- The ratio of a scaled significand is its exact value. -/
theorem ratio_eq (m : Nat) (e : Int) : ((ratio m e).1 : ℚ) / (ratio m e).2 = m * 2 ^ e ∧ 0 < (ratio m e).2 := by
  unfold ratio
  simp only [Nat.pow_eq]
  split
  · obtain ⟨k, rfl⟩ : ∃ k : ℕ, e = -(k : ℤ) := ⟨e.natAbs, by omega⟩
    refine ⟨?_, by positivity⟩
    rw [Int.natAbs_neg, Int.natAbs_natCast, zpow_neg, zpow_natCast, ← div_eq_mul_inv]
    push_cast
    rfl
  · obtain ⟨k, rfl⟩ : ∃ k : ℕ, e = (k : ℤ) := ⟨e.natAbs, by omega⟩
    refine ⟨?_, by positivity⟩
    rw [Int.natAbs_natCast, zpow_natCast]
    push_cast
    rw [div_one]

/-- Converting a number to another format rounds its exact value. -/
theorem rounds_convert {src : BinaryFormat} (hfmt : fmt.Proper) (s : Bool) (m : Nat) (e : Int) :
    Rounds (rational s m e) (convert (.finite s m e : Binary src) : Binary fmt) := by
  obtain ⟨hratio, hpos⟩ := ratio_eq m e
  rw [rational_eq, ← hratio]
  exact (round_spec s hfmt hpos).2

/-- What fits in a format stays below its overflow, on either side. -/
theorem Fits.signed_lt_overflow (h : Fits (.finite s m e : Binary fmt)) (t : Bool) :
    signed t (rational s m e) < fmt.overflow := by
  obtain ⟨hm, -, he⟩ := h
  have hcount : (m : ℚ) + 1 ≤ 2 ^ fmt.precision := by exact_mod_cast hm
  have hstep : (2 : ℚ) ^ e ≤ 2 ^ fmt.maxExp := zpow_le_zpow_right₀ one_le_two he
  have hpos : (0 : ℚ) ≤ m * 2 ^ e := by positivity
  have hlt : (m : ℚ) * 2 ^ e < fmt.overflow :=
    calc (m : ℚ) * 2 ^ e ≤ m * 2 ^ fmt.maxExp := by gcongr
      _ < fmt.overflow := mul_lt_mul_of_pos_right (by linarith) (by positivity)
  rw [rational_eq]
  cases s <;> cases t <;> simp only [signed, if_true, Bool.false_eq_true, if_false] <;> linarith

/-- A finer format has the same number. -/
theorem convert_widen (hfine : fine.Finer fmt) (hproper : fine.Proper) (h : Fits (.finite s m e : Binary fmt)) :
    ∃ t n f, convert (.finite s m e : Binary fmt) = (.finite t n f : Binary fine) ∧
      rational t n f = rational s m e := by
  have hrounds : Rounds _ (convert (.finite s m e : Binary fmt) : Binary fine) := rounds_convert hproper s m e
  generalize convert (.finite s m e : Binary fmt) = x at hrounds
  cases hrounds with
  | finite hnear => exact ⟨_, _, _, rfl, hnear.eq_of_mem (hfine.grid_subset h.mem_grid)⟩
  | infinite hover => exact absurd (hfine.overflow_le.trans hover) (not_le.2 (h.signed_lt_overflow _))

end Convert

end Binary

end SparqlAlgebra

import SparqlAlgebra.Proofs.Number.Rounding

/-!
# Comparing numbers of different formats

A number that is rounded to a format and compared there with a number of the format is on the same side of it in a finer
format, whether it is rounded to that or taken as it is.
-/

namespace SparqlAlgebra

namespace Binary

variable {fmt fine : BinaryFormat}

/-- Finite numbers are compared by their exact values. -/
theorem compare?_finite (s : Bool) (m : Nat) (e : Int) (t : Bool) (n : Nat) (f : Int) :
    compare? (.finite s m e : Binary fmt) (.finite t n f) = some (compare (rational s m e) (rational t n f)) :=
  congrArg some (compareFinite_eq s m e t n f)

/-- The other way round the comparison is swapped. -/
theorem compare?_swap (x y : Binary fmt) : compare? y x = (compare? x y).map Ordering.swap := by
  cases x with
  | nan s => cases y <;> rfl
  | infinite s =>
    cases y with
    | nan t => rfl
    | infinite t => cases s <;> cases t <;> rfl
    | finite t n f => cases s <;> rfl
  | finite s m e =>
    cases y with
    | nan t => rfl
    | infinite t => cases t <;> rfl
    | finite t n f =>
      rw [compare?_finite, compare?_finite]
      exact congrArg some Std.OrientedOrd.eq_swap

/-- A comparison with a known outcome has the opposite one the other way round. -/
theorem compare?_swap_of_eq {x y : Binary fmt} {o : Ordering} (h : compare? x y = some o) :
    compare? y x = some o.swap :=
  (compare?_swap x y).trans (congrArg (Option.map Ordering.swap) h)

/-- The total order extends the numeric one. -/
theorem totalCompare_of_lt {x y : Binary fmt} (h : compare? x y = some .lt) : totalCompare x y = .lt := by
  cases x with
  | nan s => cases h
  | infinite s =>
    cases y with
    | nan t => cases h
    | infinite t => cases s <;> cases t <;> first | rfl | cases h
    | finite t n f => cases s <;> first | rfl | cases h
  | finite s m e =>
    cases y with
    | nan t => cases h
    | infinite t => cases t <;> first | rfl | cases h
    | finite t n f =>
      have hlt : compareFinite s m e t n f = .lt := Option.some.inj h
      rw [totalCompare, hlt]
      rfl

/-- Numbers with the same value have the same sign, except for zero. -/
theorem sign_eq_of_rational_eq {s : Bool} {m : Nat} {e : Int} {t : Bool} {n : Nat} {f : Int}
    (h : rational s m e = rational t n f) (hne : rational s m e ≠ 0) : s = t := by
  have hnonneg : ∀ (k : ℕ) (g : ℤ), (0 : ℚ) ≤ k * 2 ^ g := fun k g => by positivity
  have hm := hnonneg m e
  have hn := hnonneg n f
  by_contra hst
  refine hne ?_
  rw [rational_eq] at h ⊢
  rw [rational_eq] at h
  obtain rfl : t = !s := Bool.eq_not.2 (Ne.symm hst)
  cases s with
  | false =>
    change (m : ℚ) * 2 ^ e = -(n * 2 ^ f) at h
    change (m : ℚ) * 2 ^ e = 0
    linarith
  | true =>
    change -((m : ℚ) * 2 ^ e) = n * 2 ^ f at h
    change -((m : ℚ) * 2 ^ e) = 0
    linarith

/-- Different numbers with one exact value other than zero are not told apart. -/
theorem totalCompare_of_rational_eq {s : Bool} {m : Nat} {e : Int} {t : Bool} {n : Nat} {f : Int}
    (h : rational s m e = rational t n f) (hne : rational s m e ≠ 0) :
    totalCompare (.finite s m e : Binary fmt) (.finite t n f) = .eq := by
  rw [totalCompare, compareFinite_eq, compare_eq_iff_eq.2 h, if_pos (sign_eq_of_rational_eq h hne)]
  rfl

/-- Nothing is compared with what is no number. -/
theorem compare?_nan (x : Binary fmt) (t : Bool) : compare? x (.nan t) = none := by
  cases x <;> rfl

/-- A number that is on one side of a number of the format after it has been rounded to that has been there before. -/
theorem Rounds.compare_eq {q : ℚ} {x : Binary fmt} (hx : Rounds q x) {t : Bool} {n : Nat} {f : Int}
    (hfits : Fits (.finite t n f : Binary fmt)) {o : Ordering} (ho : o ≠ .eq)
    (h : compare? x (.finite t n f) = some o) : compare q (rational t n f) = o := by
  cases hx with
  | @finite s m e hnear =>
    rw [compare?_finite, Option.some.injEq] at h
    cases o with
    | eq => exact absurd rfl ho
    | lt =>
      refine compare_lt_iff_lt.2 (not_le.1 fun hle => ?_)
      exact absurd (compare_lt_iff_lt.1 h) (not_lt.2 (hnear.le_of_le hfits.mem_grid hle))
    | gt =>
      refine compare_gt_iff_gt.2 (not_le.1 fun hle => ?_)
      exact absurd (compare_gt_iff_gt.1 h) (not_lt.2 (hnear.ge_of_ge hfits.mem_grid hle))
  | @infinite s hover =>
    have hlt : signed s (rational t n f) < signed s q := (hfits.signed_lt_overflow s).trans_le hover
    obtain rfl : (if s then .lt else .gt) = o := Option.some.inj h
    cases s with
    | false => exact compare_gt_iff_gt.2 hlt
    | true => exact compare_lt_iff_lt.2 (neg_lt_neg_iff.1 hlt)

/-- A number that does not overflow is not rounded to an infinity. -/
theorem Rounds.exists_finite {q : ℚ} {x : Binary fmt} (hx : Rounds q x) (hq : |q| < fmt.overflow) :
    ∃ s m e, x = .finite s m e ∧ Nearest fmt.grid q (rational s m e) := by
  cases hx with
  | finite hnear => exact ⟨_, _, _, rfl, hnear⟩
  | @infinite s hover =>
    refine absurd (hover.trans ?_) (not_le.2 hq)
    cases s with
    | false => exact le_abs_self q
    | true => exact neg_le_abs q

/-- Rounding keeps the order of two numbers, unless it makes them equal. -/
theorem Rounds.compare?_of_lt {q r : ℚ} {x y : Binary fmt} (hx : Rounds q x) (hy : Rounds r y) (hq : |q| < fmt.overflow)
    (hr : |r| < fmt.overflow) (hlt : q < r) (hne : compare? x y ≠ some .eq) : compare? x y = some .lt := by
  obtain ⟨s, m, e, rfl, hnear⟩ := hx.exists_finite hq
  obtain ⟨t, n, f, rfl, hnear'⟩ := hy.exists_finite hr
  rw [compare?_finite, ne_eq, Option.some.injEq, compare_eq_iff_eq] at hne
  rw [compare?_finite, Option.some.injEq, compare_lt_iff_lt]
  exact lt_of_le_of_ne (hnear.mono hnear' hlt) hne

section Widen

variable (hfine : fine.Finer fmt)
include hfine

/-- Numbers of one format are compared alike in a finer one. -/
theorem compare?_widen (hproper : fine.Proper) {x y : Binary fmt} (hx : x.Fits) (hy : y.Fits) :
    compare? (convert x : Binary fine) (convert y) = compare? x y := by
  cases x with
  | nan s => rfl
  | infinite s =>
    cases y with
    | nan t => rfl
    | infinite t => rfl
    | finite t n f =>
      obtain ⟨t', n', f', hy', -⟩ := convert_widen hfine hproper hy
      rw [hy']
      rfl
  | finite s m e =>
    obtain ⟨s', m', e', hx', hvalue⟩ := convert_widen hfine hproper hx
    rw [hx']
    cases y with
    | nan t => rfl
    | infinite t => rfl
    | finite t n f =>
      obtain ⟨t', n', f', hy', hvalue'⟩ := convert_widen hfine hproper hy
      rw [hy', compare?_finite, compare?_finite, hvalue, hvalue']

/-- A number of the finer format that is on one side of a number after it has been rounded to the format of that one has
been there before. -/
theorem compare?_of_convert (hproper : fine.Proper) (hfmt : fmt.Proper) {x : Binary fine} {y : Binary fmt} (hy : y.Fits)
    {o : Ordering} (ho : o ≠ .eq) (h : compare? (convert x) y = some o) : compare? x (convert y) = some o := by
  cases y with
  | nan t =>
    rw [compare?_nan] at h
    cases h
  | infinite t =>
    cases x with
    | nan s => cases h
    | infinite s => exact h
    | finite s m e =>
      -- Two infinities differ here, so that the sign of the other one tells the order.
      generalize (convert (.finite s m e : Binary fine) : Binary fmt) = z at h
      obtain rfl : (if t then .gt else .lt) = o := by
        cases z with
        | nan u => cases h
        | finite u k g => exact Option.some.inj h
        | infinite u =>
          obtain rfl := Option.some.inj h
          revert ho
          cases u <;> cases t <;> decide
      rfl
  | finite t n f =>
    obtain ⟨t', n', f', hy', hvalue⟩ := convert_widen hfine hproper hy
    rw [hy']
    cases x with
    | nan s => cases h
    | infinite s => exact h
    | finite s m e => rw [compare?_finite, hvalue, (rounds_convert hfmt s m e).compare_eq hy ho h]

/-- A number that does not overflow the format is on the same side of a number of it when it is rounded to the finer
format instead. -/
theorem Rounds.compare?_finer (hproper : fine.Proper) {q : ℚ} {x : Binary fmt} {z : Binary fine} (hx : Rounds q x)
    (hz : Rounds q z) (hq : |q| < fmt.overflow) {y : Binary fmt} (hy : y.Fits) {o : Ordering} (ho : o ≠ .eq)
    (h : compare? x y = some o) : compare? z (convert y) = some o := by
  obtain ⟨s, m, e, rfl, hnear⟩ := hx.exists_finite hq
  obtain ⟨s', m', e', rfl, hnear'⟩ := hz.exists_finite (hq.trans_le hfine.overflow_le)
  cases y with
  | nan t => cases h
  | infinite t => exact h
  | finite t n f =>
    obtain ⟨t', n', f', hy', hvalue⟩ := convert_widen hfine hproper hy
    rw [hy', compare?_finite, hvalue, Option.some.injEq]
    rw [compare?_finite, Option.some.injEq] at h
    have hneg : ∀ {g : BinaryFormat}, ∀ r ∈ g.grid, -r ∈ g.grid := fun _ => BinaryFormat.neg_mem_grid
    have hbetween := fun r (hr : r ∈ fmt.grid) u (hu : u ∈ fmt.grid) => hfine.between hr hu
    cases o with
    | eq => exact absurd rfl ho
    | lt => exact compare_lt_iff_lt.2 <|
        hnear.lt_of_lt hfine.grid_subset hbetween hnear' hy.mem_grid (compare_lt_iff_lt.1 h)
    | gt => exact compare_gt_iff_gt.2 <|
        hnear.lt_of_gt hneg hneg hfine.grid_subset hbetween hnear' hy.mem_grid (compare_gt_iff_gt.1 h)

end Widen

end Binary

end SparqlAlgebra

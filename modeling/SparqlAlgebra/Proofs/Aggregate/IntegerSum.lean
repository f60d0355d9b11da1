import Mathlib.Algebra.BigOperators.Group.List.Basic
import Mathlib.Data.List.Infix
import SparqlAlgebra.Proofs.Aggregate.Columns

/-!
# Sums of integers

Integers are added one after another, and a sum that does not fit in 64 bits on the way spoils the result even if later
integers would bring it back. So the order of the solutions never leads to another sum, but it may lead to none. It does
not matter just if the whole sum does not fit, or the sums of the positive and of the negative integers both fit; and a
whole sum that fits is reached in some order.
-/

namespace SparqlAlgebra

/-- The integer of 64 bits that a solution binds a variable to. -/
def Solution.integer? (s : Solution) (v : Variable) : Option Int :=
  match s.get? v with
  | some (.literal l) => if l.datatype = Xsd.integer then Numeric.readInteger? l.text else none
  | _ => none

/-- Whether all sums on the way fit in 64 bits if integers are added to a number one after another. -/
def SumsFit (n : Int) (is : List Int) : Prop := ∀ p ∈ is.inits, fitsInt64 (n + p.sum) = true

/-- Whether all partial sums fit can be computed. -/
instance (n : Int) (is : List Int) : Decidable (SumsFit n is) := inferInstanceAs (Decidable (∀ p ∈ is.inits, _))

section Sums

variable {α : Type} {f : α → Int} {n i : Int} {is : List Int} {xs : List α}

/-- Without numbers the start has to fit. -/
theorem sumsFit_nil : SumsFit n [] ↔ fitsInt64 n = true := by
  simp [SumsFit]

/-- With one more number the start has to fit, and everything from their sum on. -/
theorem sumsFit_cons : SumsFit n (i :: is) ↔ fitsInt64 n = true ∧ SumsFit (n + i) is := by
  simp [SumsFit, add_assoc]

/-- The start is one of the partial sums. -/
theorem SumsFit.start (h : SumsFit n is) : fitsInt64 n = true := by
  simpa using h [] (by simp)

/-- If all partial sums fit, the whole sum does. -/
theorem SumsFit.total (h : SumsFit n is) : fitsInt64 (n + is.sum) = true :=
  h is ((List.mem_inits is is).2 (List.prefix_refl is))

/-- The first number counts for the positive part if it is positive. -/
theorem sum_positive_cons (i : Int) (is : List Int) :
    ((i :: is).filter (0 < ·)).sum = max i 0 + (is.filter (0 < ·)).sum := by
  by_cases hi : 0 < i
  · simp [hi, hi.le]
  · simp [hi, not_lt.1 hi]

/-- The first number counts for the negative part if it is negative. -/
theorem sum_negative_cons (i : Int) (is : List Int) :
    ((i :: is).filter (· < 0)).sum = min i 0 + (is.filter (· < 0)).sum := by
  by_cases hi : i < 0
  · simp [hi, hi.le]
  · simp [hi, not_lt.1 hi]

/-- What some of the integers add up to is between the sums of the negative and of the positive ones. -/
theorem sum_between {p : List Int} (hp : p.Sublist is) :
    (is.filter (· < 0)).sum ≤ p.sum ∧ p.sum ≤ (is.filter (0 < ·)).sum := by
  induction hp with
  | slnil => exact ⟨le_rfl, le_rfl⟩
  | cons i _ ih =>
    rw [sum_negative_cons, sum_positive_cons]
    omega
  | cons_cons i _ ih =>
    rw [sum_negative_cons, sum_positive_cons, List.sum_cons]
    omega

/-- No order leads beyond the sums of the negative and of the positive integers. -/
theorem sumsFit_of_parts (hpositive : fitsInt64 (is.filter (0 < ·)).sum = true)
    (hnegative : fitsInt64 (is.filter (· < 0)).sum = true) : SumsFit 0 is := by
  intro p hp
  have hbetween := sum_between ((List.mem_inits p is).1 hp).sublist
  rw [fitsInt64_iff] at *
  omega

/-- The sum of the members that come first is met on the way. -/
theorem SumsFit.of_append {js : List Int} (h : SumsFit 0 (is ++ js)) : fitsInt64 is.sum = true := by
  have hprefix := h is ((List.mem_inits is _).2 (List.prefix_append is js))
  rwa [zero_add] at hprefix

/-- If the whole sum fits, there is a member that can be added next: one of the other sign than the sum so far, or any
one if all have its sign. -/
theorem exists_next (hxs : xs ≠ []) (hn : fitsInt64 n = true) (heach : ∀ x ∈ xs, fitsInt64 (f x) = true)
    (htotal : fitsInt64 (n + (xs.map f).sum) = true) : ∃ x ∈ xs, fitsInt64 (n + f x) = true := by
  by_contra hnone
  have hbounds : ∀ i ∈ xs.map f, (-2 ^ 63 ≤ i ∧ i < 2 ^ 63) ∧ ¬ (-2 ^ 63 ≤ n + i ∧ n + i < 2 ^ 63) := by
    intro i hi
    obtain ⟨x, hx, rfl⟩ := List.mem_map.1 hi
    exact ⟨fitsInt64_iff.1 (heach x hx), fun h => hnone ⟨x, hx, fitsInt64_iff.2 h⟩⟩
  rw [fitsInt64_iff] at hn htotal
  obtain ⟨i, hi⟩ := List.exists_mem_of_ne_nil (xs.map f) (by simpa using hxs)
  have hib := hbounds i hi
  have hbetween := sum_between (List.singleton_sublist.2 hi)
  rw [List.sum_singleton] at hbetween
  by_cases hsign : 0 ≤ n
  · have hall : (xs.map f).filter (0 < ·) = xs.map f := List.filter_eq_self.2 fun j hj => by
      have hjb := hbounds j hj
      rw [decide_eq_true_iff]
      omega
    rw [hall] at hbetween
    omega
  · have hall : (xs.map f).filter (· < 0) = xs.map f := List.filter_eq_self.2 fun j hj => by
      have hjb := hbounds j hj
      rw [decide_eq_true_iff]
      omega
    rw [hall] at hbetween
    omega

/-- A whole sum that fits is reached in some order. -/
theorem exists_perm_sumsFit (hn : fitsInt64 n = true) (heach : ∀ x ∈ xs, fitsInt64 (f x) = true)
    (htotal : fitsInt64 (n + (xs.map f).sum) = true) : ∃ ys : List α, ys.Perm xs ∧ SumsFit n (ys.map f) := by
  induction hlength : xs.length generalizing n xs with
  | zero =>
    obtain rfl := List.length_eq_zero_iff.1 hlength
    exact ⟨[], .nil, sumsFit_nil.2 hn⟩
  | succ k ih =>
    have hxs : xs ≠ [] := List.ne_nil_of_length_pos (by omega)
    obtain ⟨x, hx, hnext⟩ := exists_next hxs hn heach htotal
    obtain ⟨as, bs, rfl⟩ := List.append_of_mem hx
    have hperm : (x :: (as ++ bs)).Perm (as ++ x :: bs) := List.perm_middle.symm
    have hsum : n + ((as ++ x :: bs).map f).sum = n + f x + ((as ++ bs).map f).sum := by
      rw [← (hperm.map f).sum_eq, List.map_cons, List.sum_cons, add_assoc]
    rw [hsum] at htotal
    obtain ⟨ys, hys, hfit⟩ := ih hnext (fun y hy => heach y (hperm.subset (List.mem_cons_of_mem x hy))) htotal
      (by simpa [← add_assoc] using hlength)
    exact ⟨x :: ys, (hys.cons x).trans hperm, sumsFit_cons.2 ⟨hn, hfit⟩⟩

/-- The order does not matter just if the whole sum does not fit, or the sums of the positive and of the negative
integers both fit. -/
theorem sumsFit_order_free_iff (heach : ∀ x ∈ xs, fitsInt64 (f x) = true) :
    (∀ ys : List α, ys.Perm xs → (SumsFit 0 (ys.map f) ↔ SumsFit 0 (xs.map f))) ↔
      (fitsInt64 (xs.map f).sum = true →
        fitsInt64 ((xs.map f).filter (0 < ·)).sum = true ∧ fitsInt64 ((xs.map f).filter (· < 0)).sum = true) := by
  constructor
  · intro hsame htotal
    obtain ⟨ys, hys, hfit⟩ := exists_perm_sumsFit (n := 0) rfl heach (by rwa [zero_add])
    have hany : ∀ zs : List α, zs.Perm xs → SumsFit 0 (zs.map f) :=
      fun zs hzs => (hsame zs hzs).2 ((hsame ys hys).1 hfit)
    -- The members of one sign may come first, and then their sum is met on the way.
    have hfirst : ∀ p : Int → Bool, fitsInt64 ((xs.map f).filter p).sum = true := by
      intro p
      have hperm := List.filter_append_perm (fun x => p (f x)) xs
      have hfits := hany _ hperm
      rw [List.map_append] at hfits
      rw [List.filter_map]
      exact hfits.of_append
    exact ⟨hfirst _, hfirst _⟩
  · intro hparts ys hys
    have hwhole : ∀ zs : List α, zs.Perm xs → (SumsFit 0 (zs.map f) ↔ fitsInt64 (xs.map f).sum = true) := by
      intro zs hzs
      rw [← (hzs.map f).sum_eq, ← ((hzs.map f).filter _).sum_eq, ← ((hzs.map f).filter _).sum_eq] at hparts
      rw [← (hzs.map f).sum_eq]
      refine ⟨fun h => ?_, fun htotal => sumsFit_of_parts (hparts htotal).1 (hparts htotal).2⟩
      rw [← zero_add ((zs.map f).sum)]
      exact h.total
    rw [hwhole ys hys, hwhole xs (.refl xs)]

end Sums

namespace Solution

variable {s : Solution} {v : Variable} {i : Int}

/-- An integer that a solution has for a variable is the value of a literal and fits. -/
theorem exists_of_integer? (h : s.integer? v = some i) :
    ∃ l, s.get? v = some (.literal l) ∧ Numeric.ofLiteral? l = some (.integer i) ∧ fitsInt64 i = true := by
  unfold integer? at h
  split at h
  · rename_i l hl
    rw [Option.ite_none_right_eq_some] at h
    have hinteger : l.datatype.isIntegerDatatype = true := by
      rw [h.1]
      decide
    refine ⟨l, hl, ?_, (Numeric.readInteger?_eq_some_iff.1 h.2).1⟩
    rw [Numeric.ofLiteral?_of_integer hinteger, h.2, Option.map_some]
  · cases h

end Solution

namespace Accumulator

variable {v : Variable} {n : Int} {values : List Int} {rows : List Solution}

/-- One more integer. -/
theorem push_sum {s : Solution} {i : Int} (h : s.integer? v = some i) (n : Int) :
    (Accumulator.sum (some (.integer n))).push (s.get? v) = .sum (Numeric.integer? (n + i)) := by
  obtain ⟨l, hl, hi, -⟩ := Solution.exists_of_integer? h
  rw [hl, push, Option.bind_some, addTo, hi, Option.bind_some]
  rfl

/-- A sum that has been spoiled stays spoiled. -/
theorem foldl_push_spoiled (ts : List (Option Term)) : ts.foldl push (.sum none) = .sum none := by
  induction ts with
  | nil => rfl
  | cons t ts ih => exact ih

/-- All integers, one after another. -/
theorem foldl_push_sum (h : rows.map (·.integer? v) = values.map some) (hn : fitsInt64 n = true) :
    (rows.map (·.get? v)).foldl push (.sum (some (.integer n))) =
      .sum (if SumsFit n values then some (.integer (n + values.sum)) else none) := by
  induction rows generalizing n values with
  | nil =>
    obtain rfl := List.map_eq_nil_iff.1 h.symm
    rw [if_pos (sumsFit_nil.2 hn), List.sum_nil, add_zero]
    rfl
  | cons s rows ih =>
    cases values with
    | nil => cases h
    | cons i values =>
      obtain ⟨hi, hrest⟩ := List.cons.inj h
      rw [List.map_cons, List.foldl_cons, push_sum hi, Numeric.integer?]
      simp only [sumsFit_cons, hn, true_and]
      by_cases hfits : fitsInt64 (n + i) = true
      · rw [if_pos hfits, ih hrest hfits, List.sum_cons, add_assoc]
      · rw [if_neg hfits, if_neg (mt SumsFit.start hfits), foldl_push_spoiled]

end Accumulator

/-- The sum over a variable that the solutions of a group bind to integers. -/
theorem ReadyAggregate.evaluate_sum {v : Variable} {values : List Int} {rows : List Solution}
    (h : rows.map (·.integer? v) = values.map some) (seed : Nat) :
    (ReadyAggregate.apply (.sum (some (.integer 0))) false ⟨.var v, 0, 0⟩).evaluate seed (.ofList rows) =
      if SumsFit 0 values then some (some (.literal (.ofInt values.sum))) else none := by
  rw [evaluate_var, if_neg Bool.false_ne_true, Accumulator.ofList, Accumulator.foldl_push_sum h rfl, zero_add]
  split <;> rfl

namespace Aggregate

variable {v : Variable} {values : List Int} {rows : List Solution}

/-- The sum of a variable is folded from zero. -/
theorem ready_sum (v : Variable) (compiler : Expression.Compiler) :
    (Aggregate.apply .sum false (.var v)).ready compiler =
      .ok (.apply (.sum (some (.integer 0))) false ⟨.var v, 0, 0⟩) :=
  ready_var rfl false v compiler

/-- The sum over a variable that the solutions of a group bind to integers is their sum if all sums on the way fit in 64
bits, and fails otherwise. So no order of the solutions leads to another sum, and some order leads to it if it fits. The
order does not matter at all just if the sum does not fit, or if the sums of the positive and of the negative integers
both fit. -/
theorem sum_of_integers (h : rows.map (·.integer? v) = values.map some) (compiler : Expression.Compiler) :
    ∃ r, (Aggregate.apply .sum false (.var v)).ready compiler = .ok r ∧ ∀ seed,
      let sum : List Solution → Option (Option Term) := fun rows => r.evaluate seed (.ofList rows)
      let total : Option (Option Term) := some (some (.literal (.ofInt values.sum)))
      sum rows = (if SumsFit 0 values then total else none) ∧
        (∀ rows' : List Solution, rows'.Perm rows → sum rows' = total ∨ sum rows' = none) ∧
        ((∃ rows' : List Solution, rows'.Perm rows ∧ sum rows' = total) ↔ fitsInt64 values.sum = true) ∧
        ((∀ rows' : List Solution, rows'.Perm rows → sum rows' = sum rows) ↔
          (fitsInt64 values.sum = true →
            fitsInt64 (values.filter (0 < ·)).sum = true ∧ fitsInt64 (values.filter (· < 0)).sum = true)) := by
  refine ⟨_, ready_sum v compiler, fun seed => ?_⟩
  intro sum total
  let value : Solution → Int := fun s => (s.integer? v).getD 0
  have hinteger : ∀ s ∈ rows, s.integer? v = some (value s) := by
    intro s hs
    have hmem : s.integer? v ∈ values.map some := h ▸ List.mem_map_of_mem hs
    obtain ⟨i, -, hi⟩ := List.mem_map.1 hmem
    rw [← hi]
    exact congrArg (fun o : Option Int => some (o.getD 0)) hi
  have hvalues : rows.map value = values := by
    have hget := congrArg (List.map fun o : Option Int => o.getD 0) h
    rwa [List.map_map, List.map_map, List.map_id''] at hget
    exact fun _ => rfl
  have hsum : ∀ rows' : List Solution, rows'.Perm rows →
      sum rows' = if SumsFit 0 (rows'.map value) then total else none := by
    intro rows' hperm
    have hrows' : rows'.map (·.integer? v) = (rows'.map value).map some := by
      rw [List.map_map]
      exact List.map_congr_left fun s hs => hinteger s (hperm.subset hs)
    have htotal : (rows'.map value).sum = values.sum := hvalues ▸ (hperm.map value).sum_eq
    rw [show sum rows' = _ from ReadyAggregate.evaluate_sum hrows' seed, htotal]
  have hfits : ∀ s ∈ rows, fitsInt64 (value s) = true := by
    intro s hs
    obtain ⟨-, -, -, hs⟩ := Solution.exists_of_integer? (hinteger s hs)
    exact hs
  have hreached : ∀ rows' : List Solution, rows'.Perm rows → (sum rows' = total ↔ SumsFit 0 (rows'.map value)) := by
    intro rows' hperm
    rw [hsum rows' hperm]
    split
    · exact iff_of_true rfl ‹_›
    · exact iff_of_false nofun ‹_›
  refine ⟨hvalues ▸ hsum rows (.refl rows), fun rows' hperm => ?_, ⟨?_, fun htotal => ?_⟩, ?_⟩
  · rw [hsum rows' hperm]
    split
    · exact .inl rfl
    · exact .inr rfl
  · rintro ⟨rows', hperm, hrows'⟩
    have hend := ((hreached rows' hperm).1 hrows').total
    rwa [(hperm.map value).sum_eq, hvalues, zero_add] at hend
  · obtain ⟨rows', hperm, hsums⟩ := exists_perm_sumsFit (n := 0) rfl hfits (by rwa [hvalues, zero_add])
    exact ⟨rows', hperm, (hreached rows' hperm).2 hsums⟩
  · rw [← hvalues, ← sumsFit_order_free_iff hfits]
    refine forall_congr' fun rows' => forall_congr' fun hperm => ?_
    rw [hsum rows' hperm, hsum rows (.refl rows)]
    by_cases hown : SumsFit 0 (rows.map value) <;> by_cases hother : SumsFit 0 (rows'.map value) <;>
      simp [hown, hother, total]

/-- The greatest sum of 64 bits, in any order. -/
theorem sum_of_integers_greatest :
    let x : Variable := ⟨"x"⟩
    let row : String → Solution := fun text => Solution.empty.insert x (.literal (.typed text Xsd.integer))
    let rows : List Solution := [row "9223372036854775807", row "0", row "+00"]
    let values : List Int := [9223372036854775807, 0, 0]
    let compiler : Expression.Compiler := ⟨[], .iri ⟨"http://example.com/p"⟩⟩
    rows.map (·.integer? x) = values.map some ∧
      ∃ r, (Aggregate.apply .sum false (.var x)).ready compiler = .ok r ∧
        ∀ rows' : List Solution, rows'.Perm rows →
          r.evaluate 0 (.ofList rows') = some (some (.literal (.ofInt 9223372036854775807))) := by
  intro x row rows values compiler
  have hvalues : rows.map (·.integer? x) = values.map some := by decide +kernel
  obtain ⟨r, hr, hsum⟩ := sum_of_integers hvalues compiler
  obtain ⟨hrows, -, -, horder⟩ := hsum 0
  have hfree := horder.2 (by decide)
  refine ⟨hvalues, r, hr, fun rows' hperm => (hfree rows' hperm).trans ?_⟩
  rw [hrows, if_pos (by decide)]
  rfl

/-- One more than the greatest integer of 64 bits is met on the way in one order of three integers and not in another
one, so the sum fails in the one order and is found in the other one. -/
theorem sum_depends_on_order :
    let x : Variable := ⟨"x"⟩
    let row : String → Solution := fun text => Solution.empty.insert x (.literal (.typed text Xsd.integer))
    let rows : List Solution := [row "9223372036854775807", row "1", row "-1"]
    let rows' : List Solution := [row "1", row "-1", row "9223372036854775807"]
    let compiler : Expression.Compiler := ⟨[], .iri ⟨"http://example.com/p"⟩⟩
    rows.map (·.integer? x) = [9223372036854775807, 1, -1].map some ∧
      fitsInt64 [9223372036854775807, 1, -1].sum = true ∧ rows'.Perm rows ∧
      ∃ r, (Aggregate.apply .sum false (.var x)).ready compiler = .ok r ∧ r.evaluate 0 (.ofList rows) = none ∧
        r.evaluate 0 (.ofList rows') = some (some (.literal (.ofInt 9223372036854775807))) := by
  intro x row rows rows' compiler
  have hvalues : rows.map (·.integer? x) = [9223372036854775807, 1, -1].map some := by decide +kernel
  have hvalues' : rows'.map (·.integer? x) = [1, -1, 9223372036854775807].map some := by decide +kernel
  refine ⟨hvalues, by decide, by decide +kernel, _, ready_sum x compiler, ?_, ?_⟩
  · rw [ReadyAggregate.evaluate_sum hvalues, if_neg (by decide)]
  · rw [ReadyAggregate.evaluate_sum hvalues', if_pos (by decide)]
    rfl

end Aggregate

end SparqlAlgebra

import SparqlAlgebra.Proofs.Aggregate.OrderFree
import SparqlAlgebra.Proofs.Plan.SortedByValue

/-!
# The least and the greatest value of a group

The least value of a column is its least term in the order in which solutions are sorted, and the greatest value is its
greatest one. As only a term itself is equal to it in this order, there is one such term whatever the order of the
solutions is and however often a value occurs, and it stands at an end of the solutions sorted by the variable.
-/

namespace SparqlAlgebra

open Solution

/-- The set function that finds the least value, or the greatest one. -/
def SetFunction.extreme (greatest : Bool) : SetFunction := if greatest then .max else .min

namespace Accumulator

/-- The least or the greatest term so far. -/
def extreme (greatest : Bool) (t : Option Term) : Accumulator := if greatest then .greatest t else .least t

/-- Whether a term is the least one of a column, or the greatest one. There is none just if the column has no terms. -/
def IsExtreme (greatest : Bool) (column : List (Option Term)) : Option Term → Prop
  | none => ∀ t, some t ∉ column
  | some t => some t ∈ column ∧ ∀ u, some u ∈ column → if greatest then t.order u ≠ .lt else t.order u ≠ .gt

end Accumulator

namespace Plan

variable {greatest : Bool} {a b : Option Term}

/-- A value is not less extreme than itself. -/
theorem compareValues_self_ne_gt (greatest : Bool) (a : Option Term) : compareValues greatest a a ≠ .gt := by
  have heq : compareValues greatest a a = .eq := Std.ReflCmp.compare_self
  rw [heq]
  exact nofun

/-- The least value is the greatest one the other way round. -/
theorem compareValues_not (greatest : Bool) (a b : Option Term) :
    compareValues (!greatest) a b = compareValues greatest b a := by
  cases greatest <;> rfl

/-- A term is no less extreme than another one if the order of terms says so. -/
theorem compareValues_some (greatest : Bool) (t u : Term) :
    compareValues greatest (some t) (some u) ≠ .gt ↔ if greatest then t.order u ≠ .lt else t.order u ≠ .gt := by
  cases greatest with
  | false => rfl
  | true =>
    have hswap : u.order t = (t.order u).swap := by
      rw [Term.order_eq, Term.order_eq]
      exact Std.OrientedOrd.eq_swap
    rw [if_pos rfl, compareValues, if_pos rfl, Term.orderOptional, hswap]
    cases t.order u <;> decide

/-- Values of which none may come after the other are the same. -/
theorem eq_of_compareValues (hab : compareValues greatest a b ≠ .gt) (hba : compareValues greatest b a ≠ .gt) :
    a = b := by
  have heq : compareValues greatest a b = .eq := by
    have hswap : compareValues greatest b a = (compareValues greatest a b).swap := Std.OrientedCmp.eq_swap
    rw [hswap] at hba
    cases h : compareValues greatest a b <;> simp_all
  cases greatest with
  | false => exact Term.optionalPlace_injective a b (compare_eq_iff_eq.1 ((Term.orderOptional_eq a b).symm.trans heq))
  | true =>
    exact (Term.optionalPlace_injective b a (compare_eq_iff_eq.1 ((Term.orderOptional_eq b a).symm.trans heq))).symm

end Plan

namespace Accumulator

open Plan

variable {greatest : Bool} {xs ys : List (Option Term)} {m n : Option Term} {t u : Term}

/-- A term is the extreme of a column if no other term there is more extreme. -/
theorem isExtreme_some_iff :
    IsExtreme greatest xs (some t) ↔
      some t ∈ xs ∧ ∀ u, some u ∈ xs → compareValues greatest (some t) (some u) ≠ .gt := by
  simp only [IsExtreme, compareValues_some]

/-- Only the terms of the column matter. -/
theorem IsExtreme.congr (h : ∀ t, some t ∈ xs ↔ some t ∈ ys) (hm : IsExtreme greatest xs m) :
    IsExtreme greatest ys m := by
  cases m with
  | none => exact fun t ht => hm t ((h t).2 ht)
  | some t => exact ⟨(h t).1 hm.1, fun u hu => hm.2 u ((h u).2 hu)⟩

/-- A column has only one extreme. -/
theorem IsExtreme.unique (hm : IsExtreme greatest xs m) (hn : IsExtreme greatest xs n) : m = n := by
  cases m with
  | none =>
    cases n with
    | none => rfl
    | some u => exact absurd hn.1 (hm u)
  | some t =>
    cases n with
    | none => exact absurd hm.1 (hn t)
    | some u =>
      rw [isExtreme_some_iff] at hm hn
      exact eq_of_compareValues (hm.2 u hn.1) (hn.2 t hm.1)

/-- A term takes the place of the present one just if it comes before it. -/
theorem push_extreme (greatest : Bool) (u t : Term) :
    (extreme greatest (some u)).push (some t) =
      extreme greatest (if compareValues greatest (some t) (some u) = .lt then some t else some u) := by
  cases greatest with
  | false => simp [extreme, push, replaces, compareValues, Term.orderOptional]
  | true =>
    have hswap : t.order u = .gt ↔ u.order t = .lt := by
      rw [Term.order_eq, Term.order_eq, compare_gt_iff_gt, compare_lt_iff_lt]
    simp [extreme, push, replaces, compareValues, Term.orderOptional, hswap]

/-- A value that may come first among some terms and before another one is the extreme of all of them. -/
theorem isExtreme_append_singleton (hu : some u ∈ xs ++ [some t])
    (hxs : ∀ w, some w ∈ xs → compareValues greatest (some u) (some w) ≠ .gt)
    (ht : compareValues greatest (some u) (some t) ≠ .gt) : IsExtreme greatest (xs ++ [some t]) (some u) := by
  refine isExtreme_some_iff.2 ⟨hu, fun w hw => ?_⟩
  rcases List.mem_append.1 hw with hw | hw
  · exact hxs w hw
  · rwa [List.mem_singleton.1 hw]

/-- One more value. -/
theorem IsExtreme.push (h : IsExtreme greatest xs m) (x : Option Term) :
    ∃ n, (extreme greatest m).push x = extreme greatest n ∧ IsExtreme greatest (xs ++ [x]) n := by
  cases x with
  | none =>
    refine ⟨m, by cases greatest <;> rfl, h.congr fun t => ?_⟩
    simp
  | some t =>
    have hself := compareValues_self_ne_gt greatest (some t)
    cases m with
    | none =>
      refine ⟨some t, by cases greatest <;> rfl, ?_⟩
      exact isExtreme_append_singleton (by simp) (fun u hu => absurd hu (h u)) hself
    | some u =>
      obtain ⟨hu, hfirst⟩ := isExtreme_some_iff.1 h
      refine ⟨_, push_extreme greatest u t, ?_⟩
      split
      · rename_i hlt
        refine isExtreme_append_singleton (by simp) (fun w hw => Ordering.ne_gt_iff_isLE.2 ?_) hself
        exact Std.TransCmp.isLE_trans (by rw [hlt]; rfl) (Ordering.ne_gt_iff_isLE.1 (hfirst w hw))
      · rename_i hlt
        exact isExtreme_append_singleton (by simp [hu]) hfirst fun hgt => hlt (Std.OrientedCmp.lt_of_gt hgt)

/-- All values, one after another. -/
theorem IsExtreme.foldl (h : IsExtreme greatest xs m) (ys : List (Option Term)) :
    ∃ n, ys.foldl Accumulator.push (extreme greatest m) = extreme greatest n ∧ IsExtreme greatest (xs ++ ys) n := by
  induction ys generalizing xs m with
  | nil => exact ⟨m, rfl, by rwa [List.append_nil]⟩
  | cons y ys ih =>
    obtain ⟨n, hpush, hn⟩ := h.push y
    obtain ⟨l, hfold, hl⟩ := ih hn
    refine ⟨l, ?_, ?_⟩
    · rw [List.foldl_cons, hpush, hfold]
    · rwa [List.append_assoc] at hl

/-- The aggregate of a column is its least or greatest term. -/
theorem ofList_extreme (greatest : Bool) (xs : List (Option Term)) :
    ∃ m, (extreme greatest none).ofList xs = some m ∧ IsExtreme greatest xs m := by
  have hnone : IsExtreme greatest [] none := fun _ => List.not_mem_nil
  obtain ⟨m, hfold, hm⟩ := hnone.foldl xs
  refine ⟨m, ?_, hm⟩
  rw [ofList, hfold]
  cases greatest <;> rfl

/-- Keeping one of each value loses no term. -/
theorem mem_keepDistinct : some t ∈ keepDistinct xs ↔ some t ∈ xs := by
  rw [← List.count_pos_iff, keepDistinct, count_keepDistinctFrom]
  by_cases ht : some t ∈ xs <;> simp [ht]

/-- Of solutions that are sorted, the first that binds the variable has the least or greatest term of its column. -/
theorem isExtreme_findSome? {f : Solution → Option Term} {rows : List Solution}
    (h : rows.Pairwise fun r s => compareValues greatest (f r) (f s) ≠ .gt) :
    IsExtreme greatest (rows.map f) (rows.findSome? f) := by
  induction rows with
  | nil => exact fun _ => List.not_mem_nil
  | cons r rows ih =>
    obtain ⟨hr, hrows⟩ := List.pairwise_cons.1 h
    rw [List.findSome?_cons, List.map_cons]
    cases hfr : f r with
    | none => exact (ih hrows).congr fun t => by simp
    | some t =>
      refine isExtreme_some_iff.2 ⟨List.mem_cons_self, fun u hu => ?_⟩
      rcases List.mem_cons.1 hu with hu | hu
      · rw [hu]
        exact compareValues_self_ne_gt greatest (some t)
      · obtain ⟨s, hs, hsu⟩ := List.mem_map.1 hu
        rw [← hfr, ← hsu]
        exact hr s hs

/-- Sorting in either direction puts the least and the greatest term at the ends. -/
theorem isExtreme_sortOn (greatest descending : Bool) (f : Solution → Option Term) (rows : List Solution) :
    let sorted := sortOn descending f rows
    IsExtreme greatest (rows.map f) ((if descending = greatest then sorted else sorted.reverse).findSome? f) := by
  intro sorted
  have hsorted : sorted.Pairwise fun r s => compareValues descending (f r) (f s) ≠ .gt :=
    (List.pairwise_mergeSort (fun a b c => ne_gt_trans (f a) (f b) (f c)) (fun a b => ne_gt_total (f a) (f b))
      rows).imp fun h => bne_iff_ne.1 h
  have hmem : ∀ t, some t ∈ sorted.map f ↔ some t ∈ rows.map f := by
    intro t
    simp only [List.mem_map, sorted, mem_sortOn]
  by_cases hd : descending = greatest
  · rw [if_pos hd]
    rw [hd] at hsorted
    exact (isExtreme_findSome? hsorted).congr hmem
  · rw [if_neg hd]
    rw [Bool.eq_not_of_ne hd] at hsorted
    have hreverse : sorted.reverse.Pairwise fun r s => compareValues greatest (f r) (f s) ≠ .gt :=
      List.pairwise_reverse.2 (hsorted.imp fun h => by rwa [compareValues_not] at h)
    refine (isExtreme_findSome? hreverse).congr fun t => ?_
    rw [List.map_reverse, List.mem_reverse, hmem]

end Accumulator

namespace SetFunction

open Accumulator Plan

/-- Looking for an extreme starts with none. -/
theorem start?_extreme (greatest : Bool) : (extreme greatest).start? = some (.extreme greatest none) := by
  cases greatest <;> rfl

/-- A column has one least and one greatest term, unless it has no terms. This is the aggregate, with distinct values or
with all of them, for all solutions that have just the terms of the column, in any order and as often as may be. Sorting
the solutions by the variable puts it first, or last if they are sorted in the other direction, among those that bind
the variable. -/
theorem extreme_of_column (greatest : Bool) (v : Variable) (rows : List Solution) :
    ∃ m, (∀ n, IsExtreme greatest (rows.map (·.get? v)) n ↔ n = m) ∧
      (∀ distinct compiler, ∃ r, (Aggregate.apply (extreme greatest) distinct (.var v)).ready compiler = .ok r ∧
        ∀ rows' : List Solution, (∀ t, (∃ s ∈ rows', s.get? v = some t) ↔ ∃ s ∈ rows, s.get? v = some t) →
          ∀ seed, r.evaluate seed (.ofList rows') = some m) ∧
      ∀ (descending : Bool) (inner : Plan) (c : Scope) (source : Flow Solution) (st u : Store),
        (inner c source >>= collect).run st = (.ok rows, u) →
        ∃ sorted, (orderBy [sortKey descending (.var v)] inner c source >>= collect).run st = (.ok sorted, u) ∧
          (if descending = greatest then sorted else sorted.reverse).findSome? (·.get? v) = m := by
  obtain ⟨m, -, hm⟩ := ofList_extreme greatest (rows.map (·.get? v))
  refine ⟨m, fun n => ⟨fun hn => hn.unique hm, fun hn => hn ▸ hm⟩, fun distinct compiler => ?_, ?_⟩
  · refine ⟨_, Aggregate.ready_var (start?_extreme greatest) distinct v compiler, fun rows' hrows seed => ?_⟩
    have hmem : ∀ t, some t ∈ rows'.map (·.get? v) ↔ some t ∈ rows.map (·.get? v) := by
      intro t
      simp only [List.mem_map, hrows]
    rw [ReadyAggregate.evaluate_var]
    cases distinct with
    | false =>
      obtain ⟨n, hn, hextreme⟩ := ofList_extreme greatest (rows'.map (·.get? v))
      rw [if_neg Bool.false_ne_true, hn, (hextreme.congr hmem).unique hm]
    | true =>
      obtain ⟨n, hn, hextreme⟩ := ofList_extreme greatest (keepDistinct (rows'.map (·.get? v)))
      rw [if_pos rfl, hn, (hextreme.congr fun t => mem_keepDistinct.trans (hmem t)).unique hm]
  · intro descending inner c source st u hrows
    have hready : (Expression.var v).ready c.compiler = .ok ⟨.var v, 0, 0⟩ := rfl
    have hrun : (orderBy [sortKey descending (.var v)] inner c source >>= collect).run st = _ :=
      run_collect_orderBy_single rfl hready inner source st
    have hvalue : (fun s => valueOf ⟨.var v, 0, 0⟩ (s, [])) = fun s : Solution => s.get? v := by
      funext s
      rw [valueOf, Compiled.term?]
    rw [hrows, hvalue] at hrun
    exact ⟨_, hrun, (isExtreme_sortOn greatest descending _ rows).unique hm⟩

/-- The least value of solutions that bind a variable to a decimal and to an integer, or leave it open. It is also that
of others in which the decimal comes first and occurs again. -/
theorem extreme_of_column_decimal :
    let x : Variable := ⟨"x"⟩
    let two : Term := .literal (.typed "2" Xsd.integer)
    let less : Term := .literal (.typed "1.5" Xsd.decimal)
    let rows : List Solution := [Solution.empty.insert x two, .empty, Solution.empty.insert x less]
    let rows' : List Solution :=
      [Solution.empty.insert x less, Solution.empty.insert x two, Solution.empty.insert x less]
    let inner : Plan := fun _ source => return source
    let st : Store := ⟨⟨.empty defaultGraphIri ⟨true, true⟩, [], fun _ => ⟨true, true⟩⟩, none, 0⟩
    let c : Scope := ⟨⟨.streaming, ⟨1, .structural, false⟩⟩, ⟨[], .iri ⟨"http://example.com/p"⟩⟩, .default, none⟩
    let source : Flow Solution := .ofList rows
    (∀ t, (∃ s ∈ rows', s.get? x = some t) ↔ ∃ s ∈ rows, s.get? x = some t) ∧
      (inner c source >>= collect).run st = (.ok rows, st) ∧
      (∃ r, (Aggregate.apply .min true (.var x)).ready c.compiler = .ok r ∧
        r.evaluate 0 (.ofList rows') = some (some less)) ∧
      ∃ sorted, (orderBy [sortKey true (.var x)] inner c source >>= collect).run st = (.ok sorted, st) ∧
        sorted.reverse.findSome? (·.get? x) = some less := by
  intro x two less rows rows' inner st c source
  have hcolumn : rows.map (·.get? x) = [some two, none, some less] := by decide +kernel
  have hcolumn' : rows'.map (·.get? x) = [some less, some two, some less] := by decide +kernel
  have hrows' : ∀ t, (∃ s ∈ rows', s.get? x = some t) ↔ ∃ s ∈ rows, s.get? x = some t := by
    intro t
    rw [← List.mem_map, ← List.mem_map, hcolumn, hcolumn']
    simp [or_comm]
  have hrun : (inner c source >>= collect).run st = (.ok rows, st) := Stage.collect_ofList rows st
  have hleast : IsExtreme false (rows.map (·.get? x)) (some less) := by
    rw [hcolumn]
    refine ⟨by simp, fun u hu => ?_⟩
    rcases List.mem_cons.1 hu with hu | hu
    · obtain rfl := Option.some.inj hu
      decide +kernel
    · obtain rfl : u = less := by simpa using hu
      decide +kernel
  obtain ⟨m, hm, haggregate, hsort⟩ := extreme_of_column false x rows
  obtain rfl := (hm _).1 hleast
  obtain ⟨r, hr, hvalue⟩ := haggregate true c.compiler
  obtain ⟨sorted, hsorted, hfirst⟩ := hsort true inner c source st st hrun
  exact ⟨hrows', hrun, ⟨r, hr, hvalue rows' hrows' 0⟩, sorted, hsorted, hfirst⟩

end SetFunction

end SparqlAlgebra

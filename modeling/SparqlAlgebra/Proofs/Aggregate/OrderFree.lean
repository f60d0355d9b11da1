import SparqlAlgebra.Proofs.Aggregate.Partition
import SparqlAlgebra.Proofs.Algebra.Steady
import SparqlAlgebra.Proofs.Value.Order

/-!
# Groups whose solutions come in any order

Counting and finding the least or the greatest term give the same for every order of the values, since only a term
itself is as great as it is. So the solutions of the groups depend on the order of the rows only in their own order,
unless an aggregate adds up, joins, samples or draws.
-/

namespace SparqlAlgebra

/-! ## Accumulators -/

namespace Accumulator

variable {a : Accumulator} {x y : Option Term} {xs ys : List (Option Term)}

/-- Whether the order of the values does not matter. -/
def isOrderFree : Accumulator → Bool
  | .count _ | .least _ | .greatest _ => true
  | .sum _ | .average .. | .sample _ | .concat .. => false

/-- The term that is kept of the present one and the next one. -/
def keepBetter (wanted : Ordering) (u : Option Term) (t : Term) : Option Term :=
  if replaces wanted t u then some t else u

/-- If terms are replaced by those that come before them in a linear order, the first one of all is kept. -/
theorem keepBetter_right_comm {κ : Type} [LinearOrder κ] {wanted : Ordering} {f : Term → κ}
    (hf : Function.Injective f) (hreplaces : ∀ t u : Term, t.order u = wanted ↔ f t < f u) (u : Option Term) (s t : Term) :
    keepBetter wanted (keepBetter wanted u s) t = keepBetter wanted (keepBetter wanted u t) s := by
  -- Keeping the better of two terms is their minimum in the order that the function gives them.
  let _ : LinearOrder Term := .lift' f hf
  have hmin : ∀ s t : Term, keepBetter wanted (some s) t = some (min s t) := by
    intro s t
    have hlt : t.order s = wanted ↔ t < s := hreplaces t s
    rw [keepBetter, replaces]
    split
    · rename_i h
      rw [min_eq_right (hlt.1 (beq_iff_eq.1 h)).le]
    · rename_i h
      rw [min_eq_left (not_lt.1 (mt hlt.2 (by simpa using h)))]
  cases u with
  | none =>
    have hfirst : ∀ t : Term, keepBetter wanted none t = some t := fun _ => rfl
    rw [hfirst, hfirst, hmin, hmin, min_comm]
  | some u => rw [hmin, hmin, hmin, hmin, min_right_comm]

/-- Pushing values does not change which kind of accumulator it is. -/
theorem isOrderFree_push (a : Accumulator) (x : Option Term) : (a.push x).isOrderFree = a.isOrderFree := by
  cases a <;> cases x <;> rfl

/-- Two values that follow one another may change places. -/
theorem push_right_comm (h : a.isOrderFree = true) (x y : Option Term) : (a.push x).push y = (a.push y).push x := by
  cases a with
  | count n => cases x <;> cases y <;> rfl
  | least u =>
    cases x with
    | none => cases y <;> rfl
    | some s =>
      cases y with
      | none => rfl
      | some t =>
        have hless : ∀ t u : Term, t.order u = .lt ↔ t.place < u.place := by
          intro t u
          rw [Term.order_eq, compare_lt_iff_lt]
        exact congrArg Accumulator.least
          (keepBetter_right_comm (fun s t => Term.place_injective s t) hless u s t)
  | greatest u =>
    cases x with
    | none => cases y <;> rfl
    | some s =>
      cases y with
      | none => rfl
      | some t =>
        have hgreater : ∀ t u : Term, t.order u = .gt ↔ OrderDual.toDual t.place < OrderDual.toDual u.place := by
          intro t u
          rw [Term.order_eq, compare_gt_iff_gt]
          exact OrderDual.toDual_lt_toDual.symm
        exact congrArg Accumulator.greatest
          (keepBetter_right_comm (fun s t hst => Term.place_injective s t (OrderDual.toDual_inj.1 hst)) hgreater u s t)
  | _ => cases h

/-- The order of the values does not matter. -/
theorem foldl_push_perm (h : a.isOrderFree = true) (hp : xs.Perm ys) : xs.foldl push a = ys.foldl push a := by
  -- The accumulator changes on the way but stays of its kind, which is what the swap needs.
  induction hp generalizing a with
  | nil => rfl
  | cons x _ ih => exact ih (by rwa [isOrderFree_push])
  | swap x y zs =>
    rw [List.foldl_cons, List.foldl_cons, List.foldl_cons, List.foldl_cons, push_right_comm h]
  | trans _ _ ih₁ ih₂ => exact (ih₁ h).trans (ih₂ h)

/-- The accumulator of a set function without order does not tell in which order values come. -/
theorem ofList_perm (h : a.isOrderFree = true) (hp : xs.Perm ys) : a.ofList xs = a.ofList ys :=
  congrArg finish (foldl_push_perm h hp)

/-- Whether there is a result whatever the values are. -/
def isSure : Accumulator → Bool
  | .least _ | .greatest _ | .sample _ => true
  | .count _ | .sum _ | .average .. | .concat .. => false

/-- Pushing a value does not change whether an accumulator can fail. -/
theorem isSure_push (a : Accumulator) (x : Option Term) : (a.push x).isSure = a.isSure := by
  cases a <;> cases x <;> rfl

/-- An accumulator that cannot fail has a value for every list. -/
theorem ofList_ne_none (h : a.isSure = true) (xs : List (Option Term)) : a.ofList xs ≠ none := by
  induction xs generalizing a with
  | nil =>
    cases a with
    | least t | greatest t | sample t => exact Option.some_ne_none t
    | _ => cases h
  | cons x xs ih => exact ih (by rwa [isSure_push])

/-- Every absent value is kept, and every term that is not in the set once. -/
theorem count_keepDistinctFrom (seen : KeySet Term) (xs : List (Option Term)) (x : Option Term) :
    (keepDistinctFrom seen [] xs).count x =
      match x with
      | none => xs.count none
      | some t => if some t ∈ xs ∧ seen.contains t = false then 1 else 0 := by
  induction xs generalizing seen with
  | nil => cases x <;> simp [keepDistinctFrom]
  | cons y ys ih =>
    cases y with
    | none =>
      rw [keepDistinctFrom, keepDistinctFrom_eq, List.reverse_singleton, List.singleton_append, List.count_cons, ih]
      cases x <;> simp
    | some u =>
      rw [keepDistinctFrom]
      cases hu : seen.contains u with
      | true =>
        -- A term that is in the set is dropped, so it counts nothing whether it comes first or again.
        rw [if_pos rfl, ih]
        cases x with
        | none => simp
        | some t =>
          have hsame : t = u → seen.contains t = true := by
            rintro rfl
            exact hu
          by_cases htu : t = u
          · simp [hsame htu]
          · simp [htu]
      | false =>
        rw [if_neg Bool.false_ne_true, keepDistinctFrom_eq, List.reverse_singleton, List.singleton_append,
          List.count_cons, ih]
        cases x with
        | none => simp
        | some t =>
          have hinsert : (seen.insert u).contains t = false ↔ u ≠ t ∧ seen.contains t = false := by
            rw [← Bool.not_eq_true, KeySet.contains_insert, not_or, Bool.not_eq_true]
          simp only [hinsert]
          by_cases htu : t = u
          · subst htu
            simp [hu]
          · simp [htu, Ne.symm htu]

/-- Keeping one of each value keeps the same ones in whatever order they come. -/
theorem keepDistinct_perm (hp : xs.Perm ys) : (keepDistinct xs).Perm (keepDistinct ys) := by
  refine List.perm_iff_count.2 fun x => ?_
  rw [keepDistinct, keepDistinct, count_keepDistinctFrom, count_keepDistinctFrom]
  cases x with
  | none => exact hp.count_eq none
  | some t => simp only [hp.mem_iff]

end Accumulator

/-! ## Aggregates -/

namespace ReadyAggregate

variable {a : ReadyAggregate} {e : Compiled} {rows rows' : List Solution}

/-- Whether an aggregate depends neither on the order of the solutions nor on what is drawn for them. -/
def isOrderFree : ReadyAggregate → Bool
  | .countRows _ => true
  | .apply start _ e => start.isOrderFree && e.root.drawsNothing

/-- An expression that draws nothing has a value for each solution, wherever the values are read. -/
theorem values_ofList (h : e.drawsNothing = true) (seed : Nat) (rows : List Solution) :
    values e seed (.ofList rows) = rows.map fun s => e.term? ⟨s, [], 0⟩ := by
  have hholds := Columns.holds_ofList rows
  unfold values
  split
  · rename_i v hv
    obtain rfl : e = .var v := by
      cases e with
      | var w => exact congrArg Compiled.var (Option.some.inj hv)
      | _ => cases hv
    rw [hholds.columnOf]
    exact List.map_congr_left fun s _ => by rw [Compiled.term?]
  · rw [rowValues, hholds.rows]
    -- Every row has a seed of its own, which does not matter.
    have hseed : ∀ x : Solution × Nat, e.term? ⟨x.1, [], seed + x.2⟩ = e.term? ⟨x.1, [], 0⟩ :=
      fun x => e.term?_seed _ _ h
    rw [List.map_congr_left fun x _ => hseed x]
    conv_rhs => rw [← List.zipIdx_map_fst 0 rows, List.map_map]
    rfl

/-- The order of the solutions of a group does not matter. -/
theorem evaluate_perm (h : a.isOrderFree = true) (hp : rows.Perm rows') (m n : Nat) :
    a.evaluate m (.ofList rows) = a.evaluate n (.ofList rows') := by
  have hholds := Columns.holds_ofList rows
  have hholds' := Columns.holds_ofList rows'
  cases a with
  | countRows distinct =>
    cases distinct with
    | false => rw [evaluate, evaluate, hholds.size, hholds'.size, hp.length_eq]
    | true =>
      have hset : rows.toFinset = rows'.toFinset := List.toFinset_eq_of_perm _ _ hp
      rw [evaluate, evaluate, hholds.distinctRows, hholds'.distinctRows, hset]
  | apply start distinct e =>
    rw [isOrderFree, Bool.and_eq_true] at h
    have hvalues : (values e.root m (.ofList rows)).Perm (values e.root n (.ofList rows')) := by
      rw [values_ofList h.2, values_ofList h.2]
      exact hp.map _
    rw [evaluate, evaluate]
    cases distinct with
    | false => exact Accumulator.ofList_perm h.1 hvalues
    | true => exact Accumulator.ofList_perm h.1 (Accumulator.keepDistinct_perm hvalues)

end ReadyAggregate

/-- Whether an aggregate counts or finds the least or the greatest value, without drawing values. -/
def Aggregate.isOrderFree : Aggregate → Bool
  | .countRows _ => true
  | .apply .count _ e | .apply .min _ e | .apply .max _ e => e.isSteady
  | .apply _ _ _ => false

/-- Such an aggregate is compiled to one for which the order does not matter. -/
theorem Aggregate.ready_isOrderFree {c : Expression.Compiler} {a : Aggregate} {r : ReadyAggregate}
    (h : a.isOrderFree = true) (hr : a.ready c = .ok r) : r.draws = 0 ∧ r.isOrderFree = true := by
  cases a with
  | countRows distinct =>
    cases hr
    exact ⟨rfl, rfl⟩
  | apply f distinct e =>
    obtain ⟨x, hx, rfl⟩ := exists_of_ready_apply hr
    cases f with
    | count | min | max =>
      obtain ⟨hdraws, hroot⟩ := Expression.ready_steady h hx
      exact ⟨hdraws, hroot⟩
    | _ => cases h

/-! ## Groups -/

namespace Group

variable {vs : List Variable} {as : List (Variable × ReadyAggregate)} {rows rows' : List Solution}
  {k : List (Option Term)}

/-- The same keys occur in whatever order the rows come. -/
theorem keys_perm (hp : rows.Perm rows') : (keys vs rows).Perm (keys vs rows') := by
  unfold keys
  split
  · exact .refl _
  · refine (List.perm_ext_iff_of_nodup (nodup_firsts _) (nodup_firsts _)).2 fun k => ?_
    rw [mem_firsts, mem_firsts]
    exact (hp.map _).mem_iff

/-- The aggregates of a group do not depend on the order of its rows if none of them does on its own. -/
theorem aggregates_perm (h : ∀ a ∈ as, a.2.isOrderFree = true) (hp : rows.Perm rows') (m n : Nat) :
    (⟨k, .ofList rows⟩ : Group).aggregates m as = (⟨k, .ofList rows'⟩ : Group).aggregates n as := by
  induction as generalizing m n with
  | nil => rfl
  | cons a as ih =>
    rw [aggregates, aggregates, ReadyAggregate.evaluate_perm (h a List.mem_cons_self) hp m n,
      ih fun b hb => h b (List.mem_cons_of_mem a hb)]

/-- The solution of a group does not depend on the order of its members. -/
theorem evaluate_perm (hidden : List Variable) (h : ∀ a ∈ as, a.2.isOrderFree = true) (hp : rows.Perm rows') (m n : Nat) :
    (⟨k, .ofList rows⟩ : Group).evaluate vs hidden as m = (⟨k, .ofList rows'⟩ : Group).evaluate vs hidden as n := by
  rw [evaluate, evaluate, aggregates_perm h hp m n]
  rfl

/-- The solutions of the groups do not depend on the order of the rows, up to their own. -/
theorem filterMap_evaluate_ofRows_perm (hidden : List Variable) (h : ∀ a ∈ as, a.2.isOrderFree = true)
    (hp : rows.Perm rows') :
    ((ofRows vs rows).filterMap fun g => (g.evaluate vs hidden as 0).toOption).Perm
      ((ofRows vs rows').filterMap fun g => (g.evaluate vs hidden as 0).toOption) := by
  rw [ofRows_eq, ofRows_eq, List.filterMap_map, List.filterMap_map]
  have hgroup : ∀ k : List (Option Term),
      (⟨k, .ofList (rows.filter fun s => keyOf vs s = k)⟩ : Group).evaluate vs hidden as 0 =
        (⟨k, .ofList (rows'.filter fun s => keyOf vs s = k)⟩ : Group).evaluate vs hidden as 0 :=
    fun k => evaluate_perm hidden h (hp.filter _) 0 0
  simp only [Function.comp_def, hgroup]
  exact (keys_perm hp).filterMap _

end Group

end SparqlAlgebra

import SparqlAlgebra.Proofs.Aggregate.OrderFree
import SparqlAlgebra.Proofs.Plan.RowsTested
import SparqlAlgebra.Proofs.Text.Codes

/-!
# Plans that look at all rows deliver the rows of their patterns

Removing duplicates and grouping need all rows before they know what they deliver, and they take them in the order in
which they come. The keys tell solutions apart, so each solution is kept once, whichever comes first; and if the order
of the rows does not matter to the aggregates, the groups give the same solutions.
-/

namespace SparqlAlgebra

open Solution Stage

variable {P : Store → Prop} {mayFail : Prop} {c : Scope} {st : Store} {source : Flow Solution} {Q : Solution → Prop}

namespace Plan

open Build

variable {p : Plan} {F : Rows} {vs : List Variable} {as : List (Variable × Aggregate)}

/-- Distinct rows are those of the pattern without repetitions. -/
theorem means_distinct (hp : MeansOn Q P mayFail c p F) :
    MeansOn Q P mayFail c (distinct p) fun V => (F V).dedup :=
  fun source V hV hs st hst => (hp source V hV hs st hst).bind fun _ hstage =>
    .pure (c.engine.within_distinct Solution.key_injective hstage)

/-- An aggregate is compiled to one for which the order of the rows does not matter; that it cannot be compiled, or has
no result, is allowed or excluded. -/
structure Folds (mayFail : Prop) (c : Scope) (a : Aggregate) : Prop where
  /-- A failure to compile is allowed for. -/
  failure : ∀ x, a.ready c.compiler = .error x → mayFail
  /-- Once compiled, the order of the rows does not matter. -/
  orderFree : ∀ r, a.ready c.compiler = .ok r → r.draws = 0 ∧ r.isOrderFree = true
  /-- A group without a result is allowed for. -/
  result : ∀ r, a.ready c.compiler = .ok r → ∀ seed g, r.evaluate seed g = none → mayFail

/-- Compiling the aggregates gives those that can be compiled, or fails. -/
theorem gives_compileAggregates (has : ∀ a ∈ as, Folds mayFail c a.2) :
    Gives mayFail st (fun rs => rs = Rows.aggregates c.compiler as)
      (as.mapM fun x : Variable × Aggregate => match x with
        | (v, a) => match a.ready c.compiler with
          | .ok r => (return (v, r) : Build (Variable × ReadyAggregate))
          | .error e => throw e) := by
  refine (Gives.mapM (Q := fun x r => x.2.ready c.compiler = .ok r.2 ∧ r.1 = x.1) fun x hx => ?_).mono fun rs hrs => ?_
  · dsimp only
    split
    · rename_i r hr
      exact .pure ⟨hr, rfl⟩
    · rename_i e he
      exact .throw e ((has x hx).failure e he)
  · clear has
    induction hrs with
    | nil => rfl
    | @cons x r as rs hr _ ih =>
      rw [Rows.aggregates, List.filterMap_cons]
      dsimp only
      rw [hr.1, ← Rows.aggregates, ← ih, ← hr.2]
      rfl

/-- What has been compiled comes from one of the aggregates. -/
theorem exists_of_mem_aggregates {r : Variable × ReadyAggregate} (h : r ∈ Rows.aggregates c.compiler as) :
    ∃ a ∈ as, a.2.ready c.compiler = .ok r.2 := by
  obtain ⟨⟨v, a⟩, ha, hready⟩ := List.mem_filterMap.1 h
  obtain ⟨x, hx, rfl⟩ := Option.map_eq_some_iff.1 hready
  refine ⟨_, ha, ?_⟩
  cases hc : a.ready c.compiler with
  | error e => simp [hc, Except.toOption] at hx
  | ok y => simpa [hc, Except.toOption] using hx

/-- A group fails only if one of its aggregates has no result. -/
theorem exists_of_evaluate_error {hidden : List Variable} {rs : List (Variable × ReadyAggregate)} {seed : Nat}
    {g : Group} {e : QueryError} (h : g.evaluate vs hidden rs seed = .error e) :
    ∃ r ∈ rs, ∃ n, r.2.evaluate n g.columns = none := by
  have hvalues : ∃ x, g.aggregates seed rs = .error x := by
    unfold Group.evaluate at h
    cases hg : g.aggregates seed rs with
    | error x => exact ⟨x, rfl⟩
    | ok values =>
      rw [hg] at h
      cases h
  clear h
  obtain ⟨x, hx⟩ := hvalues
  induction rs generalizing seed x with
  | nil => cases hx
  | cons r rs ih =>
    rw [Group.aggregates] at hx
    split at hx
    · exact ⟨r, List.mem_cons_self, seed, ‹_›⟩
    · cases hrest : g.aggregates (seed + g.columns.size) rs with
      | error y =>
        obtain ⟨r', hr', hnone⟩ := ih y hrest
        exact ⟨r', List.mem_cons_of_mem _ hr', hnone⟩
      | ok values =>
        rw [hrest] at hx
        cases hx

/-- Grouping delivers the same solutions for every order of the rows. A count that is too great is a failure. -/
theorem means_group (hp : MeansOn Q P mayFail c p F) (has : ∀ a ∈ as, Folds mayFail c a.2) :
    MeansOn Q P mayFail c (group vs as p) fun V => Rows.group c.compiler vs as (F V) := by
  intro source V hV hs st hst
  refine (hp source V hV hs st hst).bind fun stage hstage => ?_
  refine (gives_compileAggregates has).bind fun rs hrs => ?_
  obtain rfl := hrs
  have hfree : ∀ r ∈ Rows.aggregates c.compiler as, r.2.draws = 0 ∧ r.2.isOrderFree = true := by
    intro r hr
    obtain ⟨a, ha, hready⟩ := exists_of_mem_aggregates hr
    exact (has a ha).orderFree _ hready
  have hresult : ∀ r ∈ Rows.aggregates c.compiler as, ∀ n g, r.2.evaluate n g = none → mayFail := by
    intro r hr
    obtain ⟨a, ha, hready⟩ := exists_of_mem_aggregates hr
    exact (has a ha).result _ hready
  have hdraws : (Rows.aggregates c.compiler as).all (fun a => a.2.draws == 0) = true :=
    List.all_eq_true.2 fun r hr => by rw [(hfree r hr).1, beq_self_eq_true]
  rw [bindKeys_vars]
  refine Gives.bind (Q := fun x => x = (stage, vs, [])) (.pure rfl) fun x hx => ?_
  obtain rfl := hx
  dsimp only
  rw [if_pos hdraws]
  -- The groups keep the order of their rows, so only what is made of them is the same for every order.
  refine .pure (c.engine.within_tryMap_rearrange (fun rows hrows => ?_) (fun _ _ g _ e he => ?_) hstage)
  · have hperm : rows.Perm (F V).toList := Multiset.coe_eq_coe.1 (by rw [hrows, Multiset.coe_toList])
    exact Multiset.coe_eq_coe.2 (Group.filterMap_evaluate_ofRows_perm [] (fun r hr => (hfree r hr).2) hperm)
  · obtain ⟨r, hr, n, hnone⟩ := exists_of_evaluate_error he
    exact hresult r hr n g.columns hnone

end Plan

end SparqlAlgebra

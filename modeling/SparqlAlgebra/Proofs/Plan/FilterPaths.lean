import SparqlAlgebra.Proofs.Query.Similar
import SparqlAlgebra.Proofs.Stage.Prompt

/-!
# Both ways to evaluate a filter

A test that stands alone as a filter has a stage of its own, which hands a solution on as soon as it knows whether the
pattern has one. Every other filter answers all of its tests for a solution and then evaluates an expression that reads
the answers by their numbers. A test gives the same either way, down to the store that it leaves.
-/

namespace SparqlAlgebra

open Stage

/-- A construction is like itself. -/
theorem Build.Similar.refl {α : Type} {Q : α → α → Prop} (hQ : ∀ a, Q a a) (x : Build α) : Build.Similar Eq Q x x := by
  rintro s _ rfl
  rcases x.run s with ⟨e | a, t⟩
  · exact .error rfl
  · exact .ok (hQ a) rfl

/-- What has the same result as a construction in the middle has the same result. -/
theorem Build.Similar.trans_eq {R : Store → Store → Prop} {x y z : Build (Flow Solution)}
    (h : Build.Similar Eq (Stage.Similar Eq) x y) (k : Build.Similar R (Stage.Similar R) y z) :
    Build.Similar R (Stage.Similar R) x z := by
  intro s t hR
  have hxy := h s s rfl
  have hyz := k s t hR
  rcases hx : x.run s with ⟨v, s'⟩
  rcases hy : y.run s with ⟨w, u⟩
  rcases hz : z.run t with ⟨w', t'⟩
  rw [hx, hy] at hxy
  rw [hy, hz] at hyz
  cases hxy with
  | ok hq hs =>
    subst hs
    cases hyz with
    | ok hq' hR => exact .ok (hq.trans_eq hq') hR
  | error hs =>
    subst hs
    cases hyz with
    | error hR => exact .error hR

/-- It does not matter which of two constructions comes first. -/
theorem Build.Similar.symm_eq {x y : Build (Flow Solution)} (h : Build.Similar Eq (Stage.Similar Eq) x y) :
    Build.Similar Eq (Stage.Similar Eq) y x := by
  intro s t hst
  have hyx := h t s hst.symm
  rcases hx : x.run t with ⟨v, t'⟩
  rcases hy : y.run s with ⟨w, s'⟩
  rw [hx, hy] at hyx
  cases hyx with
  | ok hq ht => exact .ok hq.symm_eq ht.symm
  | error ht => exact .error ht.symm

namespace Plan

variable {c : Scope} {tests : List Plan} {p : Plan} {r : Expression.Ready} {x : Solution} {st : Store}

/-- The plan of a filter that evaluates its expression, even if this is nothing but a test. -/
def filterByExpression (e : Expression) (tests : List Plan) (inner : Plan) : Plan := fun c source => do
  let stage ← inner c source
  applyFilter c (← compile c e) tests stage

/-- Whether a plan has a solution for a row, and the store that is left. -/
def found (c : Scope) (p : Plan) (x : Solution) (st : Store) : Except QueryError Bool × Store :=
  let (f, st) := now (p c (.ofList [x])) st
  let (ss, st) := (c.engine.limit 1 f).collect st
  (ss.map fun ss => !ss.isEmpty, st)

/-- The answers to all tests for a row, and the store that is left. -/
def tested (c : Scope) (tests : List Plan) (x : Solution) (st : Store) : Except QueryError (List Bool) × Store :=
  answers ((forEach c x tests st).1.map (c.engine.limit 1)) (forEach c x tests st).2

/-- The row if its expression is true. -/
def accepted (r : Expression.Ready) (x : Solution × List Bool) : Option Solution :=
  if r.root.truth? ⟨x.1, x.2, 0⟩ == some true then some x.1 else none

/-- Testing a row reads the store, answers the tests and leaves the store that this leads to. -/
theorem test_eq_act (c : Scope) (tests : List Plan) (x : Solution) :
    test c tests x =
      .act fun st => (ofExcept ((tested c tests x st).1.map fun as => [(x, as)]), (tested c tests x st).2) := by
  refine congrArg Stage.act (funext fun st => ?_)
  unfold tested
  dsimp only
  rcases answers ((forEach c x tests st).1.map (c.engine.limit 1)) (forEach c x tests st).2 with ⟨e | as, t⟩
  · rfl
  · rfl

/-- A test does all of that before its first item. -/
theorem prompt_test (c : Scope) (tests : List Plan) (x : Solution) : Prompt (test c tests x) := by
  rw [test_eq_act]
  exact prompt_act fun st => ((tested c tests x st).1.map fun as => [(x, as)], (tested c tests x st).2)

/-- Collecting it gives the row with its answers. -/
theorem collect_test (c : Scope) (tests : List Plan) (x : Solution) (st : Store) :
    (test c tests x).collect st = ((tested c tests x st).1.map fun as => [(x, as)], (tested c tests x st).2) := by
  rw [test_eq_act]
  exact collect_ofExcept _ _

/-- A single test is answered by its plan. -/
theorem tested_singleton (c : Scope) (p : Plan) (x : Solution) (st : Store) :
    tested c [p] x st = ((found c p x st).1.map fun b => [b], (found c p x st).2) := by
  unfold tested found
  dsimp only [forEach, List.map, answers]
  rcases (c.engine.limit 1 (now (p c (.ofList [x])) st).1).collect (now (p c (.ofList [x])) st).2 with ⟨e | ss, t⟩
  · rfl
  · rfl

/-- As long as any item is asked for, what is built later is built. -/
theorem collect_limit_later (g : Engine) (n : Nat) (b : Build (Flow Solution)) (st : Store) :
    (g.limit (n + 1) (later b)).collect st = (g.limit (n + 1) (now b st).1).collect (now b st).2 := by
  cases g with
  | streaming => rfl
  | vectorized =>
    rw [Engine.limit, Engine.limit, Vectorized.collect_onList, Vectorized.collect_onList]
    rfl

/-- What is kept of a row by a test that stands alone. -/
theorem collect_keptIfFound (c : Scope) (p : Plan) (negated : Bool) (x : Solution) (st : Store) :
    (c.engine.filterMap (fun found => if found.isEmpty == negated then some x else none) <|
        c.engine.gather (c.engine.limit 1 (later (p c (.ofList [x]))))).collect st =
      ((found c p x st).1.map fun b => if (!b) == negated then [x] else [], (found c p x st).2) := by
  rw [Engine.collect_filterMap, Engine.collect_gather, collect_limit_later]
  unfold found
  dsimp only
  rcases (c.engine.limit 1 (now (p c (.ofList [x])) st).1).collect (now (p c (.ofList [x])) st).2 with ⟨e | ss, t⟩
  · rfl
  · dsimp only [Except.map]
    rw [Bool.not_not]
    rw [List.filterMap_cons]
    cases ss.isEmpty == negated <;> rfl

/-- What is kept of a row by an expression. -/
theorem collect_accepted (c : Scope) (tests : List Plan) (r : Expression.Ready) (x : Solution) (st : Store) :
    (c.engine.filterMap (accepted r) (test c tests x)).collect st =
      ((tested c tests x st).1.map fun as => (accepted r (x, as)).toList, (tested c tests x st).2) := by
  rw [Engine.collect_filterMap, collect_test]
  cases (tested c tests x st).1 with
  | error e => rfl
  | ok as =>
    dsimp only [Except.map]
    cases ha : accepted r (x, as) <;> simp [ha]

/-- Without tests there are no answers. -/
theorem similar_testAll_each (c : Scope) (tests : List Plan) (f : Flow Solution) :
    Build.Similar Eq (Stage.Similar Eq) (testAll c tests f)
      (do tests.forM fun p => validate p c; return c.engine.mergeMap (test c tests) f) := by
  cases tests with
  | nil =>
    have htest : ∀ x, Stage.Similar Eq (.ofList [(x, [])]) (test c [] x) := by
      intro x
      refine (prompt_ofList _).similar_eq (prompt_test c [] x) fun st => ?_
      rw [collect_ofList, collect_test]
      rfl
    exact .pure ((c.engine.similar_map_mergeMap _ f).trans_eq (c.engine.similar_mergeMap htest (.refl f)))
  | cons p ps => exact .refl Stage.Similar.refl _

/-- An expression that draws nothing is evaluated for each row on its own. -/
theorem similar_applyFilter_each (hdraws : r.draws = 0) (c : Scope) (tests : List Plan) (f : Flow Solution) :
    Build.Similar Eq (Stage.Similar Eq) (applyFilter c r tests f)
      (do
        tests.forM fun p => validate p c
        return c.engine.mergeMap (fun x => c.engine.filterMap (accepted r) (test c tests x)) f) := by
  have hkeep : ∀ a b, Stage.Similar Eq a b → Stage.Similar Eq
      (c.engine.filterMap (fun kept => if kept.2 then some kept.1 else none)
        (mapRows c.engine r.draws (fun row => r.root.truth? row == some true) a))
      (c.engine.filterMap (accepted r) b) := by
    intro a b hab
    rw [mapRows, if_pos hdraws]
    exact (c.engine.similar_filterMap_map _ _ a).trans_eq (c.engine.similar_filterMap _ hab)
  have htested := (similar_testAll_each c tests f).bind fun a b hab => Build.Similar.pure (hkeep a b hab)
  rw [bind_assoc] at htested
  refine htested.trans_eq ((Build.Similar.refl (fun _ => rfl) _).bind fun _ _ _ => ?_)
  rw [pure_bind]
  exact .pure (c.engine.similar_filterMap_mergeMap _ _ f)

/-- A test that stands alone keeps what an expression keeps that has the same truth value. -/
theorem similar_existsFilter_each (c : Scope) (p : Plan) (negated : Bool) (f : Flow Solution)
    (hr : ∀ x b, accepted r (x, [b]) = if (!b) == negated then some x else none) :
    Build.Similar Eq (Stage.Similar Eq) (existsFilter c p negated f)
      (do
        [p].forM fun p => validate p c
        return c.engine.mergeMap (fun x => c.engine.filterMap (accepted r) (test c [p] x)) f) := by
  have hrow : ∀ x, Stage.Similar Eq
      (c.engine.filterMap (fun found => if found.isEmpty == negated then some x else none) <|
        c.engine.gather (c.engine.limit 1 (later (p c (.ofList [x])))))
      (c.engine.filterMap (accepted r) (test c [p] x)) := by
    intro x
    refine (c.engine.prompt_filterMap _ (c.engine.prompt_gather _)).similar_eq
      (c.engine.prompt_filterMap _ (prompt_test c [p] x)) fun st => ?_
    rw [collect_keptIfFound, collect_accepted, tested_singleton]
    cases (found c p x st).1 with
    | error e => rfl
    | ok b =>
      dsimp only [Except.map]
      rw [hr]
      cases (!b) == negated <;> rfl
  refine Build.Similar.bind (Q := Eq) ?_ fun _ _ _ => .pure (c.engine.similar_mergeMap hrow (.refl f))
  change Build.Similar Eq Eq (validate p c) (validate p c >>= fun _ => pure ())
  rw [bind_pure_unit]
  exact .refl (fun _ => rfl) _

/-- A filter with the tests of its expression gives the same whether or not a test is evaluated on its own. -/
theorem similar_filterByExpression (e : Expression) (q : Plan) (c : Scope) (source : Flow Solution) :
    Build.Similar Eq (Stage.Similar Eq) (filter e e.tests q c source) (filterByExpression e e.tests q c source) := by
  refine Build.Similar.bind (Q := Eq) (.refl (fun _ => rfl) _) fun f _ hf => ?_
  subst hf
  have halone : ∀ (p : Plan) (negated : Bool) (r : Expression.Ready), r.draws = 0 →
      (∀ x b, accepted r (x, [b]) = if (!b) == negated then some x else none) →
      Build.Similar Eq (Stage.Similar Eq) (existsFilter c p negated f) (applyFilter c r [p] f) := by
    intro p negated r hdraws hr
    exact (similar_existsFilter_each c p negated f hr).trans_eq (similar_applyFilter_each hdraws c [p] f).symm_eq
  cases e with
  | hasSolution p =>
    rw [Expression.tests]
    exact halone p.plan false ⟨.answer 0, 1, 0⟩ rfl fun x b => by cases b <;> rfl
  | not a =>
    cases a with
    | hasSolution p =>
      rw [Expression.tests, Expression.tests]
      exact halone p.plan true ⟨.not (.answer 0), 1, 0⟩ rfl fun x b => by cases b <;> rfl
    | _ => exact .refl Stage.Similar.refl _
  | _ => exact .refl Stage.Similar.refl _

/-- Collecting a filter gives the same, and leaves the same store, whether or not a test is evaluated on its own. -/
theorem run_filterByExpression (e : Expression) (q : Plan) (c : Scope) (source : Flow Solution) (st : Store) :
    (filter e e.tests q c source >>= collect).run st =
      (filterByExpression e e.tests q c source >>= collect).run st := by
  have hresult := (similar_filterByExpression e q c source).bind (fun _ _ => similar_collect) st st rfl
  exact Prod.ext hresult.fst_eq hresult.snd

end Plan

end SparqlAlgebra

import SparqlAlgebra.Proofs.Algebra.Steady
import SparqlAlgebra.Proofs.Expression.Draws
import SparqlAlgebra.Proofs.Solution.Merge
import SparqlAlgebra.Proofs.Stage.Collect
import SparqlAlgebra.Query.Evaluate

/-!
# Collecting what a plan is built of

A plan that ends with operators on what their input collects to is collected by collecting the plan before them. This
is how an expression that draws no values is evaluated for all solutions, how a variable is bound to it, and how the
solutions are rearranged.

An extension whose expression has at most one value binds a variable that was free before, in each of the solutions for
which there is a value, and delivers each solution once. The value can be read off the variable, and without it the
solution is the one it was.
-/

namespace SparqlAlgebra

namespace Plan

variable {α β : Type}

/-- Collecting a plan that ends with an operator on what its input collects to. -/
theorem run_collect_bind {f : Flow α → Flow β} {k : List α → Except QueryError (List β)}
    (hf : ∀ stage st, (f stage).collect st = ((stage.collect st).1 >>= k, (stage.collect st).2)) (b : Build (Flow α))
    (st : Store) :
    ((do return f (← b)) >>= collect : Build (List β)).run st =
      (((b >>= collect : Build (List α)).run st).1 >>= k, ((b >>= collect : Build (List α)).run st).2) := by
  rw [Build.run_bind, Build.run_bind, Build.run_bind]
  rcases b.run st with ⟨e | stage, t⟩
  · rfl
  · exact hf stage t

/-- Collecting what a stage is turned into turns what it collects, if the engine does so for every stage. -/
theorem run_collect_map {f : Flow α → Flow β} {k : List α → List β}
    (hf : ∀ stage st, (f stage).collect st = ((stage.collect st).1.map k, (stage.collect st).2)) (b : Build (Flow α))
    (st : Store) :
    ((do return f (← b)) >>= collect : Build (List β)).run st =
      (((b >>= collect : Build (List α)).run st).1.map k, ((b >>= collect : Build (List α)).run st).2) := by
  have hbind : ∀ r : Except QueryError (List α), r.map k = r >>= fun xs => .ok (k xs) := by
    intro r
    cases r <;> rfl
  rw [hbind]
  exact run_collect_bind (fun stage st => by rw [hf, hbind]) b st

/-! ## Expressions -/

/-- Compiling an expression leaves the store alone. -/
theorem compile_eq (c : Scope) (e : Expression) : compile c e = ofExcept (e.ready c.compiler) := by
  unfold compile
  cases e.ready c.compiler <;> rfl

/-- Compiling an expression leaves the store alone. -/
theorem run_compile (c : Scope) (e : Expression) (st : Store) : (compile c e).run st = (e.ready c.compiler, st) := by
  rw [compile_eq]
  cases e.ready c.compiler <;> rfl

/-- What follows a refusal is not reached. -/
theorem refuse_bind (b : Build (Flow Solution)) (x : QueryError) (f : α → Build β) :
    (b >>= fun _ => (throw x : Build α)) >>= f = b >>= fun _ => throw x := by
  rw [bind_assoc]
  rfl

/-- A plan that is refused once another one is built delivers nothing. -/
theorem exists_run_collect_refused (b : Build (Flow Solution)) (x : QueryError) (st : Store) :
    ∃ y t, ((b >>= fun _ => (throw x : Build (Flow α))) >>= collect : Build (List α)).run st = (.error y, t) := by
  rw [Build.run_bind, Build.run_bind]
  rcases b.run st with ⟨y | stage, t⟩
  · exact ⟨y, t, rfl⟩
  · exact ⟨x, t, rfl⟩

/-- An extension whose expression cannot be compiled is refused once the plan before it is built. -/
theorem extend_of_not_ready {c : Scope} {e : Expression} {x : QueryError} (hx : e.ready c.compiler = .error x)
    (v : Variable) (tests : List Plan) (inner : Plan) (source : Flow Solution) :
    extend v e tests inner c source = inner c source >>= fun _ => throw x := by
  simp only [extend, applyExtend, compile_eq, hx]
  rfl

/-- Without anything to draw there is one value for each solution and its answers. -/
theorem collect_mapRows (g : Engine) (f : Row → α) (source : Flow (Solution × List Bool)) (st : Store) :
    (mapRows g 0 f source).collect st =
      ((source.collect st).1.map (List.map fun x => (x.1, f ⟨x.1, x.2, 0⟩)), (source.collect st).2) := by
  rw [mapRows, if_pos rfl]
  exact g.collect_map _ source st

/-- The solutions of a plan, each with the answers to some tests for it. -/
def collectTested (c : Scope) (tests : List Plan) (inner : Plan) (source : Flow Solution) :
    Build (List (Solution × List Bool)) := inner c source >>= testAll c tests >>= collect

/-- Without tests there are no answers. -/
theorem run_collectTested_nil (c : Scope) (inner : Plan) (source : Flow Solution) (st : Store) :
    (collectTested c [] inner source).run st =
      (((inner c source >>= collect).run st).1.map (List.map fun s => (s, [])),
        ((inner c source >>= collect).run st).2) :=
  run_collect_map (f := c.engine.map fun s => (s, ([] : List Bool))) (fun stage st => c.engine.collect_map _ stage st)
    (inner c source) st

/-- What is delivered by an extension whose expression draws no values. -/
theorem run_collect_extend {c : Scope} {e : Expression} {r : Expression.Ready} (hr : e.ready c.compiler = .ok r)
    (hdraws : r.draws = 0) (v : Variable) (tests : List Plan) (inner : Plan) (source : Flow Solution) (st : Store) :
    (extend v e tests inner c source >>= collect).run st =
      (((collectTested c tests inner source).run st).1.map
          (List.flatMap fun x => bindValue x.1 v (r.root.value? ⟨x.1, x.2, 0⟩)),
        ((collectTested c tests inner source).run st).2) := by
  have hextend : extend v e tests inner c source =
      (do
        let tested ← inner c source >>= testAll c tests
        return c.engine.mergeMap (fun x => .ofList (bindValue x.1 v x.2)) <|
          mapRows c.engine r.draws (fun row => r.root.value? row) tested) := by
    simp only [extend, applyExtend, compile_eq, hr, bind_assoc]
    rfl
  rw [hextend]
  refine run_collect_map (fun tested st => ?_) _ st
  rw [hdraws]
  have hlist := c.engine.collect_mergeMap_list (fun x : Solution × Option Value => bindValue x.1 v x.2)
    (mapRows c.engine 0 (fun row => r.root.value? row) tested) st
  rw [collect_mapRows] at hlist
  refine hlist.trans ?_
  cases (tested.collect st).1 with
  | error x => rfl
  | ok found => simp [Except.map, List.flatMap_map]

end Plan

/-! ## Variables that are bound to a value -/

namespace Solution

variable {s : Solution} {k v : Variable} {t : Option Term}

/-- The solution with a variable bound to a value, if there is one. -/
def assign (s : Solution) (k : Variable) : Option Term → Solution
  | some t => s.insert k t
  | none => s

/-- An open variable that is assigned a term, or none, has this. -/
theorem get?_assign (h : s.get? k = none) : (s.assign k t).get? v = if v = k then t else s.get? v := by
  cases t with
  | none =>
    split
    · rename_i hv
      rw [hv]
      exact h
    · rfl
  | some t => rw [assign, get?_insert]

/-- An assignment gives an unbound variable the value, if there is one. -/
theorem get?_assign_self (h : s.get? k = none) : (s.assign k t).get? k = t := by
  rw [get?_assign h, if_pos rfl]

/-- An assignment leaves all other variables what they had. -/
theorem get?_assign_of_ne (h : s.get? k = none) (hv : v ≠ k) : (s.assign k t).get? v = s.get? v := by
  rw [get?_assign h, if_neg hv]

/-- Taking the variable away again gives the solution back. -/
theorem erase_assign (h : s.get? k = none) : (s.assign k t).erase k = s := by
  refine ext_get? fun v => ?_
  rw [erase, get?_filter, get?_assign h]
  by_cases hv : v = k
  · rw [if_pos hv, hv, h]
    cases t <;> simp
  · rw [if_neg hv]
    cases s.get? v <;> simp [hv]

end Solution

namespace Plan

/-- Binding a value to an open variable assigns the term. -/
theorem bindValue_eq_assign {s : Solution} {k : Variable} (h : s.get? k = none) (t : Option Term) :
    bindValue s k (t.map .term) = [s.assign k t] := by
  cases t with
  | none => rfl
  | some t => simp [bindValue, bindCompatible, h, Solution.assign]

/-- The value of an expression for a solution and the answers to its tests. -/
def valueOf (e : Expression.Ready) (x : Solution × List Bool) : Option Term := e.root.term? ⟨x.1, x.2, 0⟩

/-- Each solution is delivered once, with the variable bound to the value of the expression for it. -/
theorem run_collect_extend_of_free {c : Scope} {e : Expression} {r : Expression.Ready} {k : Variable}
    (hsteady : e.isSteady = true) (hsingle : e.isCustomCall = false) (hr : e.ready c.compiler = .ok r)
    (tests : List Plan) (inner : Plan) (source : Flow Solution) (st : Store)
    (hfree : ∀ found, ((collectTested c tests inner source).run st).1 = .ok found → ∀ x ∈ found, x.1.get? k = none) :
    (extend k e tests inner c source >>= collect).run st =
      (((collectTested c tests inner source).run st).1.map (List.map fun x => x.1.assign k (valueOf r x)),
        ((collectTested c tests inner source).run st).2) := by
  rw [run_collect_extend hr (Expression.ready_steady hsteady hr).1]
  rcases h : (collectTested c tests inner source).run st with ⟨x | found, t⟩
  · rfl
  · have heach : ∀ x ∈ found, bindValue x.1 k (r.root.value? ⟨x.1, x.2, 0⟩) = [x.1.assign k (valueOf r x)] := by
      intro x hx
      rw [Expression.value?_of_ready hsingle hr, bindValue_eq_assign (hfree found (by rw [h]) x hx), valueOf]
    refine Prod.ext (congrArg Except.ok ?_) rfl
    rw [List.flatMap_congr heach]
    exact List.map_eq_flatMap.symm

end Plan

end SparqlAlgebra

import SparqlAlgebra.Plan.Scope
import SparqlAlgebra.Value.Order

/-!
# Plans that evaluate expressions

Filters, extensions and sorting. An expression may test whether patterns have solutions; these tests are
carried out for each solution before the expression is evaluated. A test that stands alone as a filter needs
no expression.
-/

namespace SparqlAlgebra

namespace Plan

/-- Compiles an expression in a scope. -/
def compile (c : Scope) (e : Expression) : Build Expression.Ready :=
  match e.ready c.compiler with
  | .ok r => return r
  | .error x => throw x

/-- Runs stages for their first solution each, and tells which of them have one. -/
def answers : List (Flow Solution) → Store → Except QueryError (List Bool) × Store
  | [], st => (.ok [], st)
  | f :: fs, st =>
    match f.collect st with
    | (.error e, st) => (.error e, st)
    | (.ok ss, st) =>
      match answers fs st with
      | (.error e, st) => (.error e, st)
      | (.ok rest, st) => (.ok ((!ss.isEmpty) :: rest), st)

/-- Tests for one solution which patterns have solutions joined with it. -/
def test (c : Scope) (tests : List Plan) (s : Solution) : Flow (Solution × List Bool) :=
  .act fun st =>
    let (fs, st) := forEach c s tests st
    match answers (fs.map (c.engine.limit 1)) st with
    | (.ok as, st) => (.ofList [(s, as)], st)
    | (.error e, st) => (.fail e, st)

/-- Carries out the tests of an expression for each solution. -/
def testAll (c : Scope) (tests : List Plan) (source : Flow Solution) :
    Build (Flow (Solution × List Bool)) := do
  if tests.isEmpty then return c.engine.map (fun s => (s, [])) source
  tests.forM fun p => validate p c
  return c.engine.mergeMap (test c tests) source

/-- Takes a seed for values that are drawn. -/
def takeSeed (st : Store) : Nat × Store := (st.seed, { st with seed := st.seed + 1 })

/-- Evaluates something for each solution. A seed is taken only if a value is drawn. -/
def mapRows {α : Type} (g : Engine) (draws : Nat) (f : Row → α)
    (source : Flow (Solution × List Bool)) : Flow (Solution × α) :=
  if draws = 0 then g.map (fun (s, as) => (s, f ⟨s, as, 0⟩)) source
  else g.mapWithState (fun (s, as) st => let (n, st) := takeSeed st; ((s, f ⟨s, as, n⟩), st)) source

/-- Keeps the solutions for which a compiled expression is true. -/
def applyFilter (c : Scope) (e : Expression.Ready) (tests : List Plan) (source : Flow Solution) :
    Build (Flow Solution) := do
  let tested ← testAll c tests source
  return c.engine.filterMap (fun (s, keep) => if keep then some s else none) <|
    mapRows c.engine e.draws (fun r => e.root.truth? r == some true) tested

/-- Keeps the solutions for which a pattern has a solution, or those for which it has none. -/
def existsFilter (c : Scope) (p : Plan) (negated : Bool) (source : Flow Solution) :
    Build (Flow Solution) := do
  validate p c
  let g := c.engine
  return g.mergeMap
    (fun s =>
      g.filterMap (fun found => if found.isEmpty == negated then some s else none) <|
        g.gather (g.limit 1 (later (p c (.ofList [s])))))
    source

/-- The plan of a filter. -/
def filter (e : Expression) (tests : List Plan) (inner : Plan) : Plan := fun c source => do
  let stage ← inner c source
  match e, tests with
  | .hasSolution _, [p] => existsFilter c p false stage
  | .not (.hasSolution _), [p] => existsFilter c p true stage
  | _, _ => applyFilter c (← compile c e) tests stage

/-- Binds a variable to a term, unless it is bound to another one. -/
def bindCompatible (s : Solution) (v : Variable) (t : Term) : Option Solution :=
  match s.get? v with
  | some u => if u = t then some s else none
  | none => some (s.insert v t)

/-- Binds a variable to a value. Without a value the solution stays as it is; each term of a sequence gives
a solution of its own. -/
def bindValue (s : Solution) (v : Variable) : Option Value → List Solution
  | none => [s]
  | some (.term t) => (bindCompatible s v t).toList
  | some (.sequence []) => [s]
  | some (.sequence ts) => ts.filterMap (bindCompatible s v)

/-- Extends solutions by the value of an expression. -/
def applyExtend (c : Scope) (v : Variable) (e : Expression) (tests : List Plan)
    (source : Flow Solution) : Build (Flow Solution) := do
  let e ← compile c e
  let tested ← testAll c tests source
  return c.engine.mergeMap (fun (s, x) => .ofList (bindValue s v x)) <|
    mapRows c.engine e.draws (fun r => e.root.value? r) tested

/-- The plan of an extension. -/
def extend (v : Variable) (e : Expression) (tests : List Plan) (inner : Plan) : Plan :=
  fun c source => do applyExtend c v e tests (← inner c source)

/-- A compiled sort key, and whether it sorts in descending order. -/
abbrev ReadyKey := Expression.Ready × Bool

/-- Compiles a sort key. -/
def compileKey (c : Scope) : SortKey → Build ReadyKey
  | .ascending e => return (← compile c e, false)
  | .descending e => return (← compile c e, true)

/-- The values of the sort keys. Tests for solutions have no value here. -/
def keyValues (keys : List ReadyKey) (r : Row) : List (Option Term) :=
  keys.map fun k => k.1.root.term? r

/-- The order of two lists of key values: the first key that differs decides. -/
def compareKeys : List ReadyKey → List (Option Term) → List (Option Term) → Ordering
  | k :: ks, x :: xs, y :: ys =>
    let o := Term.orderOptional x y
    (if k.2 then o.swap else o).then (compareKeys ks xs ys)
  | _, _, _ => .eq

/-- Sorts solutions by their key values, keeping the order of those that are equal. -/
def sortRows (keys : List ReadyKey) (rows : List (Solution × List (Option Term))) : List Solution :=
  (rows.mergeSort fun a b => compareKeys keys a.2 b.2 != .gt).map (·.1)

/-- The plan of sorting. -/
def orderBy (keys : List SortKey) (inner : Plan) : Plan := fun c source => do
  let stage ← inner c source
  let keys ← keys.mapM (compileKey c)
  let draws := keys.foldl (fun n k => n + k.1.draws) 0
  return c.engine.rearrange (sortRows keys) <|
    mapRows c.engine draws (keyValues keys) (c.engine.map (fun s => (s, [])) stage)

end Plan

end SparqlAlgebra

import SparqlAlgebra.Plan.Expression

/-!
# Plans that combine patterns

A join hands the solutions of its left side to its right side. The other combinations evaluate a pattern for
each solution, or a pattern from scratch, and join the results.
-/

namespace SparqlAlgebra

namespace Plan

/-- The plan of a join. -/
def join (a b : Plan) : Plan := fun c source => do b c (← a c source)

/-- The solutions of the right side of an optional join for one solution of the left side. -/
def optionalMatches (c : Scope) (b : Plan) (condition : Option (Expression.Ready × List Plan))
    (s : Solution) : Flow Solution :=
  .act fun st =>
    let (found, st) := now (b c (.ofList [s])) st
    match condition with
    | none => (found, st)
    | some (e, tests) => now (applyFilter c e tests found) st

/-- The plan of an optional join. -/
def leftJoin (a b : Plan) (condition : Option (Expression × List Plan)) : Plan := fun c source => do
  let left ← a c source
  validate b c
  let condition ← condition.mapM fun (e, tests) => return (← compile c e, tests)
  return c.engine.mergeMap (fun s => c.engine.defaultIfEmpty s (optionalMatches c b condition s)) left

/-- The plan of a union. -/
def union (a b : Plan) : Plan := fun c source => do
  validate a c
  validate b c
  return c.engine.mergeMap
    (fun s => .act fun st => let (fs, st) := forEach c s [a, b] st; (c.engine.merge fs, st)) source

/-- The plan of a difference. A solution is removed if it is compatible with one of the right side, even if
they have no variable in common. -/
def minus (a b : Plan) : Plan := fun c source => do
  let left ← a c source
  let right ← b c (.ofList [.empty])
  let g := c.engine
  return g.mergeMap (fun buffer => g.filter (fun s => !buffer.any s.isCompatible) left) (g.gather right)

/-- The solution of a row of values. The last value of a variable is decisive. -/
def rowSolution (vs : List Variable) (row : List (Option Term)) : Solution :=
  .ofList ((vs.zip row).filterMap fun (v, t) => t.map (v, ·))

/-- The plan of a table of values. -/
def values (vs : List Variable) (rows : List (List (Option Term))) : Plan := fun c source =>
  let table := rows.map (rowSolution vs)
  return c.engine.mergeMap (fun s => .ofList (table.filterMap s.merge?)) source

/-- The plan of a projection. The pattern is evaluated from scratch. -/
def project (vs : List Variable) (inner : Plan) : Plan := fun c source => do
  let g := c.engine
  let stage ← inner c (.ofList [.empty])
  let projected := g.gather (g.map (fun s => s.project vs) stage)
  return g.mergeMap (fun table => g.mergeMap (fun s => .ofList (table.filterMap s.merge?)) source)
    projected

/-- The plan that removes duplicates. -/
def distinct (inner : Plan) : Plan := fun c source => do
  return c.engine.distinct Solution.key (← inner c source)

/-- The plan that cuts out some of the solutions. -/
def slice (start : Nat) (length : Option Nat) (inner : Plan) : Plan := fun c source => do
  let stage ← inner c source
  let stage := if start > 0 then c.engine.skip start stage else stage
  return match length with
    | some n => c.engine.limit n stage
    | none => stage

end Plan

end SparqlAlgebra

import SparqlAlgebra.Aggregate.Evaluate
import Std.Data.TreeMap
import SparqlAlgebra.Plan.Expression

/-!
# Plans that group solutions

Solutions with the same key values form a group, and each group becomes a solution that binds its key values
and the aggregates over it.
-/

namespace SparqlAlgebra

/-- What solutions are grouped by. The value of an expression is bound to a hidden variable. -/
inductive GroupKey where
  | var (v : Variable)
  | expression (e : Expression) (tests : List Plan)

/-- A group of solutions with its key values. -/
structure Group where
  /-- The terms of the key, none where the key has no value. -/
  key : List (Option Term)
  /-- The solutions of the group, by columns. -/
  columns : Columns
  deriving DecidableEq, Inhabited

namespace Group

/-- The key values of a solution. -/
def keyOf (vs : List Variable) (s : Solution) : List (Option Term) := vs.map s.get?

/-- The solutions of each key. -/
def members (vs : List Variable) (rows : List Solution) : Std.TreeMap (List String) (List Solution) :=
  rows.foldr (fun s m => m.alter (Keyed.key (keyOf vs s)) fun ss => some (s :: ss.getD [])) ∅

/-- The groups of some solutions, in the order of their first ones. Without keys there is exactly one
group. -/
def ofRows (vs : List Variable) (rows : List Solution) : List Group :=
  let members := members vs rows
  let keys := if vs.isEmpty then [[]] else firsts (rows.map (keyOf vs))
  keys.map fun k => ⟨k, .ofList (members.getD (Keyed.key k) [])⟩

/-- The solution that binds the key values. -/
def solution (vs : List Variable) (g : Group) : Solution :=
  .ofList ((vs.zip g.key).filterMap fun (v, t) => t.map (v, ·))

/-- The values of some aggregates over a group. Each of them has as many seeds of its own as the group has
solutions. -/
def aggregates (seed : Nat) (g : Group) :
    List (Variable × ReadyAggregate) → Except QueryError (List (Variable × Option Term))
  | [] => .ok []
  | (v, a) :: as =>
    match a.evaluate seed g.columns with
    | none => .error (.aggregate v)
    | some t => do return (v, t) :: (← aggregates (seed + g.columns.size) g as)

/-- Binds the aggregates that have a value. -/
def bindAll (s : Solution) (vs : List (Variable × Option Term)) : Solution :=
  vs.foldl (fun s (v, t) => match t with | some t => s.insert v t | none => s) s

/-- The solution of a group: its key values and its aggregates, without the hidden variables. -/
def evaluate (vs hidden : List Variable) (as : List (Variable × ReadyAggregate)) (seed : Nat)
    (g : Group) : Except QueryError Solution := do
  let values ← g.aggregates seed as
  return (bindAll (g.solution vs) values).filter fun v _ => !hidden.contains v

end Group

namespace ReadyAggregate

/-- Number of values that an evaluation draws for a solution. -/
def draws : ReadyAggregate → Nat
  | .countRows _ => 0
  | .apply _ _ e => e.draws

end ReadyAggregate

namespace Plan

/-- The hidden variable of the expression at a position among the keys. -/
def hiddenKey (i : Nat) : Variable := ⟨"__group_key_" ++ toString i⟩

/-- Binds the expressions among the keys to hidden variables. Gives the stage, the variables of all keys, and
the hidden ones. -/
def bindKeys (c : Scope) :
    Nat → List GroupKey → Flow Solution → Build (Flow Solution × List Variable × List Variable)
  | _, [], source => return (source, [], [])
  | i, .var v :: ks, source => do
    let (stage, vs, hidden) ← bindKeys c (i + 1) ks source
    return (stage, v :: vs, hidden)
  | i, .expression e tests :: ks, source => do
    let extended ← applyExtend c (hiddenKey i) e tests source
    let (stage, vs, hidden) ← bindKeys c (i + 1) ks extended
    return (stage, hiddenKey i :: vs, hiddenKey i :: hidden)

/-- Groups solutions and evaluates aggregates over the groups. -/
def applyGroup (c : Scope) (keys : List GroupKey) (as : List (Variable × Aggregate))
    (source : Flow Solution) : Build (Flow Solution) := do
  let as ← as.mapM fun (v, a) =>
    match a.ready c.compiler with
    | .ok r => return (v, r)
    | .error e => throw e
  let (stage, vs, hidden) ← bindKeys c 0 keys source
  let groups := c.engine.rearrange (Group.ofRows vs) stage
  if as.all fun a => a.2.draws == 0 then
    return c.engine.tryMap (Group.evaluate vs hidden as 0) groups
  else
    return c.engine.filterMapWithState
      (fun g st =>
        ((g.evaluate vs hidden as st.seed).map some,
          { st with seed := st.seed + as.length * g.columns.size }))
      groups

/-- The plan of grouping by variables. -/
def group (vs : List Variable) (as : List (Variable × Aggregate)) (inner : Plan) : Plan :=
  fun c source => do applyGroup c (vs.map .var) as (← inner c source)

end Plan

end SparqlAlgebra

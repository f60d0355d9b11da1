import SparqlAlgebra.Aggregate.Accumulator
import SparqlAlgebra.Expression.Evaluate

/-!
# Evaluating aggregates

An aggregate over a variable reads its column; one over another expression evaluates it for each solution of
the group.
-/

namespace SparqlAlgebra

/-!
## Groups as columns

The solutions of a group, kept by variable. Each variable that is bound somewhere has a column with one
entry for each solution.
-/

/-- The solutions of a group. -/
structure Columns where
  /-- The entries of each variable, absent where it is not bound. -/
  entries : List (Variable × Array (Option Term))
  /-- Number of solutions. -/
  size : Nat
  deriving DecidableEq, Inhabited

namespace Columns

/-- No column and no row. -/
def empty : Columns := ⟨[], 0⟩

/-- Whether there is no row. -/
def isEmpty (c : Columns) : Bool := c.size == 0

/-- The variables of the columns. -/
def vars (c : Columns) : List Variable := c.entries.map (·.1)

/-- The entries of a variable, one for each solution. -/
def column? (c : Columns) (v : Variable) : Option (Array (Option Term)) := c.entries.lookup v

/-- Gives columns of absent entries to variables that have none yet. -/
def addVariables (c : Columns) (vs : List Variable) : Columns :=
  match vs.filter fun v => !c.vars.contains v with
  | [] => c
  | new => { c with entries := c.entries ++ new.map fun v => (v, Array.replicate c.size none) }

/-- Appends a solution. -/
def push (c : Columns) (s : Solution) : Columns :=
  let c := c.addVariables (s.entries.map (·.1))
  ⟨c.entries.map fun (v, xs) => (v, xs.push (s.get? v)), c.size + 1⟩

/-- Pushes some solutions one after the other. -/
def ofList (ss : List Solution) : Columns := ss.foldl push empty

/-- The entries of all columns at a position. -/
def entriesAt (c : Columns) (i : Nat) : List (Option Term) :=
  c.entries.map fun (_, xs) => (xs[i]?).getD none

/-- The solution at a position, which is empty beyond the end. -/
def row (c : Columns) (i : Nat) : Solution :=
  Solution.ofList (c.entries.filterMap fun (v, xs) => ((xs[i]?).getD none).map (v, ·))

/-- All solutions in their order. -/
def rows (c : Columns) : List Solution := (List.range c.size).map c.row

end Columns

/-! ## Values -/

/-- An aggregate whose expression has been compiled. -/
inductive ReadyAggregate where
  | countRows (distinct : Bool)
  | apply (start : Accumulator) (distinct : Bool) (e : Expression.Ready)

namespace Aggregate

/-- Compiles an aggregate. Custom ones are not supported. -/
def ready (c : Expression.Compiler) : Aggregate → Except QueryError ReadyAggregate
  | .countRows distinct => .ok (.countRows distinct)
  | .apply (.custom name) _ _ => .error (.unknownAggregate name)
  | .apply f distinct e => do
    let e ← e.ready c
    return .apply (f.start?.getD default) distinct e

end Aggregate

namespace ReadyAggregate

/-- The entries of a variable. One without a column is bound nowhere. -/
def columnOf (g : Columns) (v : Variable) : List (Option Term) :=
  ((g.column? v).getD (Array.replicate g.size none)).toList

/-- The values of an expression for all solutions of a group. -/
def rowValues (e : Compiled) (seed : Nat) (g : Columns) : List (Option Term) :=
  g.rows.zipIdx.map fun (s, i) => e.term? ⟨s, [], seed + i⟩

/-- The values of an expression, from a column if it is a variable. -/
def values (e : Compiled) (seed : Nat) (g : Columns) : List (Option Term) :=
  match e.asVariable? with
  | some v => columnOf g v
  | none => rowValues e seed g

/-- Number of different solutions. -/
def distinctRows (g : Columns) : Nat := (firsts ((List.range g.size).map g.entriesAt)).length

/-- The aggregate of a group. The seed is that of its first solution. -/
def evaluate (seed : Nat) (g : Columns) : ReadyAggregate → Option (Option Term)
  | .countRows false => (Accumulator.countTerm? g.size).map some
  | .countRows true => (Accumulator.countTerm? (distinctRows g)).map some
  | .apply start distinct e =>
    let ts := values e.root seed g
    start.ofList (if distinct then Accumulator.keepDistinct ts else ts)

end ReadyAggregate

end SparqlAlgebra

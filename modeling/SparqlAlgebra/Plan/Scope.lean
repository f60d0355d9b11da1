import SparqlAlgebra.Expression.Evaluate
import SparqlAlgebra.Storage.Store

/-!
# Plans

A plan turns a stage of solutions into the stage of the solutions of a pattern that are joined with them. It
is built against a scope: the graph in which triples are looked up, the named graphs that can be seen, and the
functions that can be called. Building a plan may fail, and it may change the store.
-/

namespace SparqlAlgebra

/-- The graph in which triples are looked up. -/
inductive ActiveGraph where
  | default
  | named (iri : Iri)
  /-- The union of those named graphs that exist. -/
  | union (iris : List Iri)
  /-- The graph that a solution binds the variable to. -/
  | bound (v : Variable)
  deriving DecidableEq, Inhabited

/-- What a plan is built against. -/
structure Scope where
  /-- How operators and joins are carried out. -/
  settings : Settings
  /-- What expressions are compiled against. -/
  compiler : Expression.Compiler
  /-- Where triple patterns are looked up. -/
  active : ActiveGraph
  /-- The named graphs that can be seen, if not all of them. -/
  visible : Option (List Iri)

/-- A query's choice of graphs. -/
structure QueryDataset where
  /-- The graphs whose union is the default graph. -/
  default : List Iri
  /-- The named graphs that can be seen, if not all of them. -/
  named : Option (List Iri)
  deriving DecidableEq, Inhabited

/-- A construction that may fail. It may change the store even if it fails. -/
abbrev Build := ExceptT QueryError (StateM Store)

/-- Builds the stage of a pattern over a stage of solutions. -/
abbrev Plan := Scope → Flow Solution → Build (Flow Solution)

namespace Scope

/-- The engine that runs the stages. -/
def engine (c : Scope) : Engine := c.settings.engine

/-- The scope with another active graph. -/
def withActive (c : Scope) (active : ActiveGraph) : Scope := { c with active := active }

/-- The scope with other hints for the evaluation. -/
def withHints (c : Scope) (hints : Hints) : Scope :=
  { c with settings := { c.settings with hints := hints } }

/-- The scope of a query with its own choice of graphs, if it has one. -/
def withDataset (c : Scope) : Option QueryDataset → Scope
  | some d => { c with active := .union d.default, visible := d.named }
  | none => c

/-- The named graphs that can be seen, in the order of the choice if there is one. -/
def namedGraphs (c : Scope) (d : Dataset) : List Iri :=
  match c.visible with
  | some iris => iris.filter d.hasNamed
  | none => d.names

/-- Whether a named graph can be seen. -/
def canSee (c : Scope) (d : Dataset) (iri : Iri) : Bool :=
  (c.visible.map (·.contains iri)).getD true && d.hasNamed iri

/-- The active graph, unless it depends on the solution. -/
def activeGraph? (c : Scope) (d : Dataset) : Except QueryError (Option GraphRef) :=
  match c.active with
  | .default => .ok (some (.single .default))
  | .named iri => if d.hasNamed iri then .ok (some (.single (.named iri))) else .error (.graphMissing iri)
  | .union iris => .ok (some (.union ((iris.filter d.hasNamed).map fun iri => .single (.named iri))))
  | .bound _ => .ok none

/-- Evaluates against the graph that a solution binds the variable to, or against every graph that can be
seen if it does not bind it. -/
def onBoundGraph (c : Scope) (v : Variable) (evaluate : Flow Solution → GraphRef → Flow Solution)
    (s : Solution) : Flow Solution :=
  .read fun st =>
    match s.get? v with
    | some (.iri iri) =>
      if c.canSee st.dataset iri then evaluate (.ofList [s]) (.single (.named iri)) else .done
    | some _ => .done
    | none =>
      c.engine.merge <| (c.namedGraphs st.dataset).map fun iri =>
        evaluate (.ofList [s.insert v (.iri iri)]) (.single (.named iri))

/-- Evaluates against the active graph. -/
def onActiveGraph (c : Scope) (source : Flow Solution)
    (evaluate : Flow Solution → GraphRef → Flow Solution) : Build (Flow Solution) := do
  let st ← get
  match c.activeGraph? st.dataset, c.active with
  | .error e, _ => throw e
  | .ok (some r), _ => return evaluate source r
  | .ok none, .bound v => return c.engine.mergeMap (c.onBoundGraph v evaluate) source
  | .ok none, _ => throw (.internal "the active graph could not be resolved")

end Scope

namespace Plan

/-- Builds at once. A failure becomes the only item of the stage. -/
def now (b : Build (Flow Solution)) (st : Store) : Flow Solution × Store :=
  match b.run st with
  | (.ok f, st) => (f, st)
  | (.error e, st) => (.fail e, st)

/-- Builds when the stage is run. -/
def later (b : Build (Flow Solution)) : Flow Solution := .act (now b)

/-- Builds a plan once without solutions, for the sake of its failure. -/
def validate (p : Plan) (c : Scope) : Build Unit := do
  let _ ← p c .done

/-- Builds plans over a single solution, all of them before any is run. -/
def forEach (c : Scope) (s : Solution) : List Plan → Store → List (Flow Solution) × Store
  | [], st => ([], st)
  | p :: ps, st =>
    let (f, st) := now (p c (.ofList [s])) st
    let (fs, st) := forEach c s ps st
    (f :: fs, st)

end Plan

end SparqlAlgebra

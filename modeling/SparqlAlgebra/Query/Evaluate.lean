import SparqlAlgebra.Algebra.Pattern
import SparqlAlgebra.Plan.Pattern
import SparqlAlgebra.Query.Template

/-!
# Queries

A query evaluates its pattern from the empty solution and answers in one of four forms: with the solutions
themselves, with whether there is one, or with triples. The triples are instances of a template, or those
that describe the resources in the solutions.
-/

namespace SparqlAlgebra

/-- What a query answers with. -/
inductive QueryForm where
  | select
  | ask
  | describe
  | construct (template : List TriplePattern)
  deriving DecidableEq, Inhabited

/-- A query. -/
structure Query where
  /-- What is made of the solutions. -/
  form : QueryForm
  /-- The pattern that is solved. -/
  pattern : Pattern
  /-- The graphs that are chosen, if any are. -/
  dataset : Option QueryDataset
  deriving Inhabited

/-- The answer to a query. -/
inductive QueryResult where
  /-- Solutions, with the variables that they may bind. -/
  | solutions (vs : List Variable) (rows : List Solution)
  | boolean (value : Bool)
  | graph (triples : List Triple)
  deriving DecidableEq, Inhabited

namespace Plan

/-- Runs a stage up to its first failure. -/
def collect {α : Type} (stage : Flow α) : Build (List α) := ExceptT.mk fun st => stage.collect st

/-- The stage of a plan over a single solution that binds nothing. -/
def fromEmpty (p : Plan) (c : Scope) : Build (Flow Solution) := p c (.ofList [.empty])

/-- The instances of a template for some solutions. -/
def instances (template : List TriplePattern) (rows : List Solution) : Build (List Triple) := do
  let st ← get
  set { st with seed := st.seed + rows.length }
  return Template.triples template st.seed rows

end Plan

namespace Describe

/-- The variable for the subjects of a description. -/
def subject : Variable := ⟨"__describe_s"⟩

/-- The variable for the predicates of a description. -/
def predicate : Variable := ⟨"__describe_p"⟩

/-- The variable for the objects of a description. -/
def object : Variable := ⟨"__describe_o"⟩

/-- Any triple of the described resource. -/
def outgoing : TriplePattern := ⟨.var subject, .var predicate, .var object⟩

/-- A solution for each IRI and each blank node in a solution. -/
def resources (s : Solution) : List Solution :=
  (s.terms.filter fun t => t.isIri || t.isBlank).map fun t => Solution.empty.insert subject t

/-- The stage of the triples of all resources in some solutions. -/
def stage (c : Scope) (solutions : Flow Solution) : Build (Flow Solution) :=
  let found := c.engine.mergeMap (fun s => .ofList (resources s)) solutions
  Plan.bgp [outgoing] c (c.engine.distinct Solution.key found)

end Describe

namespace Query

/-- The scope with the query's own choice of graphs. -/
def scope (c : Scope) (q : Query) : Scope := c.withDataset q.dataset

/-- The stage of the solutions of the pattern. -/
def stage (c : Scope) (q : Query) : Build (Flow Solution) := q.pattern.plan.fromEmpty (q.scope c)

/-- The answer to a query. -/
def evaluate (c : Scope) (q : Query) : Build QueryResult := do
  let vs := q.pattern.inScope
  let stage ← q.stage c
  match q.form with
  | .select => return .solutions vs ((← Plan.collect stage).map (·.project vs))
  | .ask => return .boolean (!(← Plan.collect (c.engine.limit 1 stage)).isEmpty)
  | .construct template =>
    let rows := (← Plan.collect stage).map (·.project vs)
    return .graph (← Plan.instances template rows)
  | .describe =>
    let rows ← Plan.collect (← Describe.stage (q.scope c) stage)
    return .graph (← Plan.instances [Describe.outgoing] rows)

end Query

end SparqlAlgebra

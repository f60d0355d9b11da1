import SparqlAlgebra.Plan.Scope

/-!
# Plans over named graphs

A pattern may be evaluated in another graph than the active one: in a graph given by its name, in the graph
that each solution names, in every graph that can be seen, or in the graph that stands for a service.
-/

namespace SparqlAlgebra

namespace Plan

/-- Builds a pattern in each of some graphs, over the solutions that do not name another graph. -/
def inEachGraph (c : Scope) (v : Variable) (inner : Plan) (rows : List Solution) :
    List Iri → Store → List (Flow Solution) × Store
  | [], st => ([], st)
  | iri :: iris, st =>
    let named := rows.filterMap fun s => s.merge? (Solution.empty.insert v (.iri iri))
    let (f, st) := now (inner (c.withActive (.named iri)) (.ofList named)) st
    let (fs, st) := inEachGraph c v inner rows iris st
    (f :: fs, st)

/-- Evaluates a pattern in every graph that can be seen. -/
def fanOut (c : Scope) (v : Variable) (inner : Plan) (source : Flow Solution) : Flow Solution :=
  c.engine.mergeMap
    (fun rows => .act fun st =>
      let (fs, st) := inEachGraph c v inner rows (c.namedGraphs st.dataset) st
      (c.engine.merge fs, st))
    (c.engine.gather source)

/-- The plan of a pattern in a named graph. For a variable the first solution decides whether the graph is
looked up for each solution or all graphs are gone through. -/
def graph (name : IriSlot) (inner : Plan) : Plan := fun c source => do
  match name with
  | .iri iri =>
    if c.canSee (← get).dataset iri then inner (c.withActive (.named iri)) source
    else throw (.graphMissing iri)
  | .var v =>
    let bound := c.withActive (.bound v)
    validate inner bound
    return c.engine.peek
      (fun first source =>
        if (first.map (·.binds v)).getD false then later (inner bound source)
        else fanOut c v inner source)
      source

/-- Builds a pattern in the graph that stands for a service, which is created if it is not there. -/
def endpoint (c : Scope) (iri : Iri) (inner : Plan) (source : Flow Solution) :
    Build (Flow Solution) := do
  let st ← get
  match st.dataset.create iri with
  | .ok d => set (st.withDataset d)
  | .error _ => pure ()
  inner (c.withActive (.named iri)) source

/-- Evaluates a pattern at the service that a solution names. -/
def atService (c : Scope) (v : Variable) (inner : Plan) (s : Solution) : Flow Solution :=
  match s.get? v with
  | some (.iri iri) => later (endpoint c iri inner (.ofList [s]))
  | _ => .fail .unboundService

/-- Ends a stage at its first failure. -/
def silence (g : Engine) (stage : Flow Solution) : Flow Solution := g.recover (fun _ => .done) stage

/-- The plan of a pattern at a service. A silent one has no solutions where it fails. -/
def service (name : IriSlot) (inner : Plan) (silent : Bool) : Plan := fun c source => do
  match name with
  | .iri iri =>
    match silent with
    | false => endpoint c iri inner source
    | true =>
      let st ← get
      match (endpoint c iri inner source).run st with
      | (.ok stage, st) => do
        set st
        return silence c.engine stage
      | (.error _, st) => do
        set st
        return .done
  | .var v =>
    let stage := c.engine.mergeMap (atService c v inner) source
    return if silent then silence c.engine stage else stage

end Plan

end SparqlAlgebra

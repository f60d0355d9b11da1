import SparqlAlgebra.Storage.Store

/-!
# Basic graph patterns

A basic graph pattern is evaluated by joining its patterns one after another, each looked up with the
bindings found so far. The order of the patterns follows estimates where the graph gives them.
-/

namespace SparqlAlgebra

namespace GraphRef

mutual

/-- The triples that match a pattern. A union shows each triple once. -/
def find (g : Engine) (p : TriplePattern) : GraphRef → Flow Triple
  | .single name => .read fun s => .ofList ((s.dataset.graph name).find p)
  | .union members => g.distinct id (g.merge (findAll g p members))

/-- The triples of some graphs, one stage for each of them. -/
def findAll (g : Engine) (p : TriplePattern) : List GraphRef → List (Flow Triple)
  | [] => []
  | m :: ms => m.find g p :: findAll g p ms

end

end GraphRef

namespace Join

/-- Whether a pattern with an estimate goes before another one: the fewer matches first, then the more
places without a variable. -/
def precedes (a b : TriplePattern × Nat) : Bool :=
  a.2 < b.2 || (a.2 == b.2 && a.1.boundSlots ≥ b.1.boundSlots)

/-- Orders patterns by their estimates. -/
def orderByEstimate (d : Dataset) (r : GraphRef) (ps : List TriplePattern) :
    Except QueryError (List TriplePattern) := do
  let estimates ← ps.mapM fun p => r.estimate d p
  return ((ps.zip estimates).mergeSort precedes).map (·.1)

/-- Joins solutions with the matches of a pattern. -/
def index (g : Engine) (r : GraphRef) (p : TriplePattern) (source : Flow Solution) : Flow Solution :=
  g.mergeMap
    (fun s =>
      let q := p.bind s
      if q.isBound then g.map (fun _ => s) (g.limit 1 (r.find g q))
      else g.filterMap (fun t => (q.match? t).bind s.merge?) (r.find g q))
    source

/-- Joins solutions with one pattern after another. -/
def indexAll (g : Engine) (r : GraphRef) (ps : List TriplePattern) (source : Flow Solution) :
    Flow Solution :=
  ps.foldl (fun stage p => index g r p stage) source

/-- The solutions of a basic graph pattern. -/
def bgp (c : Settings) (r : GraphRef) (ps : List TriplePattern) : Flow Solution :=
  if ps.isEmpty then .ofList [.empty]
  else
    .read fun s =>
      if (r.capabilities s.dataset).estimate then
        match orderByEstimate s.dataset r ps with
        | .ok ps => indexAll c.engine r ps (.ofList [.empty])
        | .error e => .fail e
      else
        match c.hints.ordering with
        | .asWritten => indexAll c.engine r ps (.ofList [.empty])
        | .structural => indexAll c.engine r (TriplePattern.structuralOrder ps) (.ofList [.empty])

/-- The solutions of several basic graph patterns together. -/
def union (c : Settings) (r : GraphRef) (bgps : List (List TriplePattern)) : Flow Solution :=
  c.engine.merge (bgps.map (bgp c r))

/-- Evaluates a basic graph pattern and keeps its solutions. -/
def keepBgp (c : Settings) (r : GraphRef) (graph : Iri) (ps : List TriplePattern) : Flow Solution :=
  c.engine.mergeMap Stage.ofList <|
    c.engine.mapWithState
      (fun ss (s : Store) => (ss, { s with cache := s.cache.map fun k => k.insert graph ps ss }))
      (c.engine.gather (bgp c r ps))

/-- The solutions of a basic graph pattern, which are kept for later if that is wanted. -/
def cachedBgp (c : Settings) (r : GraphRef) (ps : List TriplePattern) : Flow Solution :=
  .read fun s =>
    match if c.hints.useCache then s.cache else none with
    | none => bgp c r ps
    | some k =>
      let graph := r.iri s.dataset
      match k.get? graph ps with
      | some ss => .ofList ss
      | none => keepBgp c r graph ps

end Join

end SparqlAlgebra

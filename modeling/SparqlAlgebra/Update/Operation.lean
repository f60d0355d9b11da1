import SparqlAlgebra.Algebra.Pattern
import SparqlAlgebra.Plan.Scope
import SparqlAlgebra.Query.Template

/-!
# Update operations

The operations of an update request: inserting and deleting triples of graphs, given as they are or by
templates, and operations on whole graphs.
-/

namespace SparqlAlgebra

/-- A triple of a graph. -/
structure Quad where
  triple : Triple
  graph : GraphName
  deriving DecidableEq, Inhabited

/-- The graph that a template names. -/
inductive GraphSlot where
  | default
  | named (name : IriSlot)
  deriving DecidableEq, Inhabited

/-- A triple with variables in a graph. -/
structure QuadPattern where
  triple : TriplePattern
  graph : GraphSlot
  deriving DecidableEq, Inhabited

/-- The graphs that an operation clears or drops. -/
inductive GraphTarget where
  | single (name : GraphName)
  | allNamed
  | all
  deriving DecidableEq, Inhabited

/-- How the triples of a graph get into another one. -/
inductive Transfer where
  /-- They join those that are there. -/
  | add
  /-- They replace those that are there. -/
  | copy
  /-- They replace those that are there and leave their graph. -/
  | move
  deriving DecidableEq, Inhabited

/-- An operation of an update request. A silent one does nothing where it would fail. -/
inductive UpdateOperation where
  | insertData (quads : List Quad)
  | deleteData (quads : List Quad)
  /-- Deletes and inserts the instances of templates for the solutions of a pattern. -/
  | deleteInsert (delete insert : List QuadPattern) (dataset : Option QueryDataset) (pattern : Pattern)
  | load (source : Iri) (silent : Bool)
  | clear (target : GraphTarget) (silent : Bool)
  | drop (target : GraphTarget) (silent : Bool)
  | create (graph : Iri) (silent : Bool)
  | transfer (kind : Transfer) (source target : GraphName) (silent : Bool)
  deriving Inhabited

namespace Quad

/-- The blank nodes at the ends. -/
def blanks (q : Quad) : List BlankNode :=
  [q.triple.subject.toTerm, q.triple.object].filterMap fun t =>
    match t with
    | .blank b => some b
    | _ => none

/-- Renames the blank nodes of a quad. -/
def rename (r : Renaming) (q : Quad) : Quad := { q with triple := r.triple q.triple }

/-- The triples of the quads in a graph. -/
def triplesIn (qs : List Quad) (name : GraphName) : List Triple :=
  (qs.filter (·.graph == name)).map (·.triple)

end Quad

namespace GraphSlot

/-- The graph that a place stands for in a solution. -/
def instantiate? (s : Solution) : GraphSlot → Option GraphName
  | .default => some .default
  | .named name => (name.instantiate? s).map .named

end GraphSlot

namespace QuadPattern

/-- The quad that a solution makes of a pattern. -/
def instantiate? (r : Renaming) (s : Solution) (q : QuadPattern) : Option Quad := do
  let triple ← q.triple.instantiate? r s
  let graph ← q.graph.instantiate? s
  return ⟨triple, graph⟩

/-- The quads that solutions make of patterns. Blank nodes stay as they are. -/
def instances (qs : List QuadPattern) (ss : List Solution) : List Quad :=
  ss.flatMap fun s => qs.filterMap (·.instantiate? id s)

/-- The quads that solutions make of patterns. Blank nodes stand for fresh ones, others for each solution;
the solutions are numbered from a seed on. -/
def freshInstances (qs : List QuadPattern) (seed : Nat) (ss : List Solution) : List Quad :=
  let nodes := qs.flatMap (·.triple.blanks)
  ss.zipIdx.flatMap fun (s, i) => qs.filterMap (·.instantiate? (.fresh nodes (seed + i)) s)

end QuadPattern

/-!
## Changing graphs

What updates do to a dataset. A named graph comes into being when a triple is inserted into it, and only
dropping it makes it disappear; deleting from a graph that is not there does nothing.
-/

namespace Dataset

/-- Whether a graph is there. -/
def hasGraph (d : Dataset) (name : GraphName) : Bool := (d.graph? name).isSome

/-- The dataset with a graph of that name, which is created if there is none. -/
def ensure (d : Dataset) : GraphName → Dataset
  | .default => d
  | .named iri =>
    match d.create iri with
    | .ok d => d
    | .error _ => d

/-- Inserts a quad and creates its graph if need be. -/
def insertQuad (d : Dataset) (q : Quad) : Dataset := (d.ensure q.graph).modify q.graph (·.insert q.triple)

/-- Inserts quads. -/
def insertQuads (d : Dataset) (qs : List Quad) : Dataset := qs.foldl insertQuad d

/-- Deletes quads; no graph is created or removed. -/
def deleteQuads (d : Dataset) (qs : List Quad) : Dataset :=
  { d with
    default := d.default.deleteAll (Quad.triplesIn qs .default)
    named := d.named.map fun (iri, g) => (iri, g.deleteAll (Quad.triplesIn qs (.named iri))) }

/-- Fails if there is no graph of that name. -/
def demand (d : Dataset) : GraphName → Except QueryError Unit
  | .default => .ok ()
  | .named iri => if d.hasNamed iri then .ok () else .error (.graphMissing iri)

/-- Removes all triples from the graphs of a target. -/
def clear (d : Dataset) : GraphTarget → Except QueryError Dataset
  | .single name => do
    d.demand name
    return d.modify name (·.clear)
  | .allNamed => .ok ((d.unionOfAll false).clear d)
  | .all => .ok ((d.unionOfAll true).clear d)

/-- Removes the graphs of a target. The default graph only loses its triples. -/
def drop (d : Dataset) : GraphTarget → Except QueryError Dataset
  | .single .default => d.clear (.single .default)
  | .single (.named iri) => do
    d.demand (.named iri)
    return d.remove iri
  | .allNamed => .ok { d with named := [] }
  | .all => .ok { d with default := d.default.clear, named := [] }

end Dataset

/-- Keeps a dataset where a change of it fails silently. -/
def silently (silent : Bool) (d : Dataset) (change : Except QueryError Dataset) :
    Except QueryError Dataset :=
  match change with
  | .ok d => .ok d
  | .error e => if silent then .ok d else .error e

end SparqlAlgebra

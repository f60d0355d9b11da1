import SparqlAlgebra.Error
import SparqlAlgebra.Storage.Graph

/-!
# Datasets

A default graph and any number of named graphs. A graph is referred to by its name, and a reference may also
mean the union of several graphs.
-/

namespace SparqlAlgebra

/-- The name of a single graph. -/
inductive GraphName where
  | default
  | named (iri : Iri)
  deriving DecidableEq, Inhabited

/-- A single graph or a union of graphs. -/
inductive GraphRef where
  | single (name : GraphName)
  | union (members : List GraphRef)

instance : Inhabited GraphRef := ⟨.union []⟩

/-- A default graph and named graphs. -/
structure Dataset where
  /-- The graph without a name. -/
  default : Graph
  /-- The named graphs, each name once, in the order of their creation. -/
  named : List (Iri × Graph)
  /-- The capabilities that new graphs get. -/
  newCapabilities : Iri → Capabilities

namespace Dataset

/-- A dataset without triples. -/
def empty (newCapabilities : Iri → Capabilities) : Dataset :=
  ⟨.empty defaultGraphIri (newCapabilities defaultGraphIri), [], newCapabilities⟩

instance : Inhabited Dataset := ⟨empty fun _ => ⟨true, false⟩⟩

/-- The named graph of an IRI. -/
def named? (d : Dataset) (iri : Iri) : Option Graph := d.named.lookup iri

/-- Whether there is a named graph of an IRI. -/
def hasNamed (d : Dataset) (iri : Iri) : Bool := (d.named? iri).isSome

/-- The names of the named graphs in ascending order. -/
def names (d : Dataset) : List Iri := (d.named.map (·.1)).mergeSort fun a b => a.text ≤ b.text

/-- The graph of a name. -/
def graph? (d : Dataset) : GraphName → Option Graph
  | .default => some d.default
  | .named iri => d.named? iri

/-- The graph of a name, or an empty graph without capabilities if there is none. -/
def graph (d : Dataset) (name : GraphName) : Graph :=
  (d.graph? name).getD (.empty (match name with | .default => defaultGraphIri | .named iri => iri) .none)

/-- Changes the graph of a name, if there is one. -/
def modify (d : Dataset) (name : GraphName) (f : Graph → Graph) : Dataset :=
  match name with
  | .default => { d with default := f d.default }
  | .named iri => { d with named := d.named.map fun e => if e.1 = iri then (e.1, f e.2) else e }

/-- Adds a graph under a name that is not in use. -/
def add? (d : Dataset) (iri : Iri) (g : Graph) : Option Dataset :=
  if d.hasNamed iri then none else some { d with named := d.named ++ [(iri, g)] }

/-- Adds an empty graph under a name that is not in use. -/
def create (d : Dataset) (iri : Iri) : Except QueryError Dataset :=
  match d.add? iri (.empty iri (d.newCapabilities iri)) with
  | some d => .ok d
  | none => .error (.graphExists iri)

/-- Removes a named graph. -/
def remove (d : Dataset) (iri : Iri) : Dataset :=
  { d with named := d.named.filter fun e => e.1 != iri }

/-- The union of the named graphs of a list, with the default graph in front if it is included. -/
def unionOf (d : Dataset) (iris : List Iri) (includeDefault : Bool) : Except QueryError GraphRef := do
  let members ← iris.mapM fun iri =>
    if d.hasNamed iri then .ok (GraphRef.single (.named iri)) else .error (.graphMissing iri)
  return .union ((if includeDefault then [.single .default] else []) ++ members)

/-- The union of all named graphs, with the default graph in front if it is included. -/
def unionOfAll (d : Dataset) (includeDefault : Bool) : GraphRef :=
  .union ((if includeDefault then [.single .default] else []) ++
    d.names.map fun iri => .single (.named iri))

end Dataset

namespace GraphRef

/-- The IRI of what is referred to. -/
def iri (d : Dataset) : GraphRef → Iri
  | .single name => (d.graph name).iri
  | .union _ => unionGraphIri

mutual

/-- Whether all graphs that are referred to can estimate. An empty union cannot. -/
def canEstimate (d : Dataset) : GraphRef → Bool
  | .single name => (d.graph name).capabilities.estimate
  | .union members => !members.isEmpty && allCanEstimate d members

/-- Whether all members can estimate. -/
def allCanEstimate (d : Dataset) : List GraphRef → Bool
  | [] => true
  | m :: ms => m.canEstimate d && allCanEstimate d ms

end

/-- The capabilities of what is referred to. A union evaluates no patterns in one go. -/
def capabilities (d : Dataset) : GraphRef → Capabilities
  | .single name => (d.graph name).capabilities
  | .union members => ⟨canEstimate d (.union members), false⟩

/-- The greatest estimate. -/
def maxEstimate : Nat := Nat.pow 2 64 - 1

mutual

/-- How many triples match a pattern, summed over the members of a union. -/
def estimate (d : Dataset) (p : TriplePattern) : GraphRef → Except QueryError Nat
  | .single name =>
    let g := d.graph name
    if g.capabilities.estimate then .ok (g.count p)
    else .error (.unsupported g.iri "cardinality estimation")
  | .union members => estimateAll d p members

/-- The sum of the estimates of the members, bounded by the greatest estimate. -/
def estimateAll (d : Dataset) (p : TriplePattern) : List GraphRef → Except QueryError Nat
  | [] => .ok 0
  | m :: ms => do
    let n ← m.estimate d p
    let rest ← estimateAll d p ms
    return min (n + rest) maxEstimate

end

mutual

/-- The names of all single graphs, in order. -/
def leaves : GraphRef → List GraphName
  | .single name => [name]
  | .union members => leavesOfAll members

/-- The single graphs that the members stand for. -/
def leavesOfAll : List GraphRef → List GraphName
  | [] => []
  | m :: ms => m.leaves ++ leavesOfAll ms

end

/-- The first graph of a union, which takes its insertions. -/
def target? : GraphRef → Option GraphName
  | .single name => some name
  | .union [] => none
  | .union (m :: _) => m.target?

/-- Inserts a triple. Tells whether it was not there before. -/
def insert (d : Dataset) (t : Triple) (r : GraphRef) : Except QueryError (Bool × Dataset) :=
  match r.target? with
  | some name => .ok (!(d.graph name).contains t, d.modify name (·.insert t))
  | none => .error (.unsupported unionGraphIri "inserting into an empty union")

/-- Removes a triple from all graphs. Tells whether it was in one of them. -/
def delete (d : Dataset) (t : Triple) (r : GraphRef) : Bool × Dataset :=
  r.leaves.foldl
    (fun (acc : Bool × Dataset) name =>
      (acc.1 || (acc.2.graph name).contains t, acc.2.modify name (·.delete t)))
    (false, d)

/-- Removes all triples from all graphs. -/
def clear (d : Dataset) (r : GraphRef) : Dataset :=
  r.leaves.foldl (fun d name => d.modify name (·.clear)) d

end GraphRef

end SparqlAlgebra

import SparqlAlgebra.Join.Bgp
import SparqlAlgebra.Value.Numeric

/-!
# Bound joins

A bound join takes solutions in batches and evaluates the patterns of a whole batch together. The variables
of each solution carry a marker with its position in the batch, by which the results are told apart.
-/

namespace SparqlAlgebra

namespace Marker

/-- What stands between a name and a position. -/
def separator : List Char := ['_', '_', 'b', 'j']

/-- A name with the marker of a position. -/
def mark (i : Nat) (v : Variable) : Variable := ⟨v.name ++ String.ofList separator ++ toString i⟩

/-- Splits a text at the last separator. -/
def splitAtLast : List Char → Option (List Char × List Char)
  | [] => none
  | c :: cs =>
    match splitAtLast cs with
    | some (before, after) => some (c :: before, after)
    | none =>
      if separator.isPrefixOf (c :: cs) then some ([], (c :: cs).drop separator.length) else none

/-- The name and the position of a marked name. -/
def unmark? (v : Variable) : Option (Variable × Nat) := do
  let (name, digits) ← splitAtLast v.name.toList
  let i ← readNat64? digits
  return (⟨String.ofList name⟩, i)

/-- Marks the variable of a slot. -/
def markSlot (i : Nat) : Slot → Slot
  | .var v => .var (mark i v)
  | .term t => .term t

/-- Marks the variable of a slot for IRIs. -/
def markIriSlot (i : Nat) : IriSlot → IriSlot
  | .var v => .var (mark i v)
  | .iri n => .iri n

/-- A pattern with marked variables. -/
def markPattern (i : Nat) (p : TriplePattern) : TriplePattern :=
  ⟨markSlot i p.subject, markIriSlot i p.predicate, markSlot i p.object⟩

/-- The position that all variables of a solution carry, and the solution without the markers. -/
def unmarkSolution? (s : Solution) : Option (Nat × Solution) := do
  let es ← s.entries.mapM fun (v, t) => (unmark? v).map fun (w, i) => (w, i, t)
  let (_, i, _) ← es.head?
  if es.all fun e => e.2.1 == i then some (i, .ofList (es.map fun (w, _, t) => (w, t))) else none

end Marker

namespace Join

/-- Joins each solution with the solutions of the patterns filled in with it. -/
def nested (c : Settings) (r : GraphRef) (ps : List TriplePattern) (source : Flow Solution) :
    Flow Solution :=
  c.engine.mergeMap
    (fun s =>
      if s.isEmpty then cachedBgp c r ps
      else c.engine.filterMap s.merge? (bgp c r (ps.map (·.bind s))))
    source

/-- The solutions of a batch for which no pattern has a variable left, each joined on its own. -/
def batchChecks (c : Settings) (r : GraphRef) (ps : List TriplePattern) (batch : List Solution) :
    List (Flow Solution) :=
  batch.filterMap fun s =>
    let qs := ps.map (·.bind s)
    if qs.all (·.isBound) then some (c.engine.filterMap s.merge? (bgp c r qs)) else none

/-- The other solutions of a batch with their positions. -/
def batchRest (ps : List TriplePattern) (batch : List Solution) : List (Solution × Nat) :=
  batch.zipIdx.filter fun x => !(ps.map (·.bind x.1)).all (·.isBound)

/-- Hands a marked solution back to the one that it belongs to. -/
def deliver? (rest : List (Solution × Nat)) (m : Solution) : Option Solution := do
  let (i, u) ← Marker.unmarkSolution? m
  let (s, _) ← rest.find? fun x => x.2 == i
  s.merge? u

/-- Joins the solutions of a batch. -/
def batch (c : Settings) (r : GraphRef) (ps : List TriplePattern) (batch : List Solution) :
    Flow Solution :=
  if batch = [.empty] then cachedBgp c r ps
  else
    let rest := batchRest ps batch
    let marked := rest.map fun (s, i) => ps.map fun p => Marker.markPattern i (p.bind s)
    let together :=
      if rest.isEmpty then [] else [c.engine.filterMap (deliver? rest) (union c r marked)]
    c.engine.merge (batchChecks c r ps batch ++ together)

/-- Joins solutions with a basic graph pattern, in batches if the graph evaluates several patterns in one
go. -/
def bound (c : Settings) (r : GraphRef) (ps : List TriplePattern) (source : Flow Solution) :
    Flow Solution :=
  .read fun s =>
    if (r.capabilities s.dataset).union then
      c.engine.mergeMap (batch c r ps) (c.engine.buffer c.hints.batchSize source)
    else nested c r ps source

end Join

end SparqlAlgebra

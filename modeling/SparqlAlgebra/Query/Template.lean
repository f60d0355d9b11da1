import SparqlAlgebra.Expression.Evaluate
import SparqlAlgebra.KeySet
import SparqlAlgebra.TriplePattern

/-!
# Templates

A template is a list of triples with variables, of which each solution makes an instance. A place whose
variable is unbound, or bound to a term that cannot stand there, leaves its triple out. Blank nodes of the
template stand for fresh ones, others for each solution.
-/

namespace SparqlAlgebra

/-- Renames the blank nodes of a template. -/
abbrev Renaming := BlankNode → BlankNode

namespace Renaming

/-- A fresh blank node for each of a list. The seed tells renamings apart. -/
def fresh (nodes : List BlankNode) (seed : Nat) : Renaming := fun b =>
  ⟨Drawn.label seed (nodes.idxOf b)⟩

/-- The renaming of a resource. -/
def resource (r : Renaming) : Resource → Resource
  | .blank b => .blank (r b)
  | .iri i => .iri i

/-- The renaming of a term. -/
def term (r : Renaming) : Term → Term
  | .blank b => .blank (r b)
  | t => t

/-- The renaming of a triple. -/
def triple (r : Renaming) (t : Triple) : Triple := ⟨r.resource t.subject, t.predicate, r.term t.object⟩

end Renaming

namespace Slot

/-- The term that a place stands for in a solution. -/
def instantiate? (r : Renaming) (s : Solution) : Slot → Option Term
  | .term t => some (r.term t)
  | .var v => s.get? v

end Slot

namespace IriSlot

/-- The IRI that a place stands for in a solution. -/
def instantiate? (s : Solution) : IriSlot → Option Iri
  | .iri i => some i
  | .var v =>
    match s.get? v with
    | some (.iri i) => some i
    | _ => none

end IriSlot

namespace TriplePattern

/-- The blank nodes at the ends. -/
def blanks (p : TriplePattern) : List BlankNode := [p.subject.blank?, p.object.blank?].reduceOption

/-- The triple that a solution makes of a pattern. -/
def instantiate? (r : Renaming) (s : Solution) (p : TriplePattern) : Option Triple := do
  let subject ← (← p.subject.instantiate? r s).toResource?
  let predicate ← p.predicate.instantiate? s
  let object ← p.object.instantiate? r s
  return ⟨subject, predicate, object⟩

end TriplePattern

namespace Template

/-- Whether a triple may be emitted although an equal one has been: one with a blank node at an end. -/
def alwaysNew (t : Triple) : Bool := t.subject.toTerm.isBlank || t.object.isBlank

/-- The triples of one instance that are new, in the order of the template. Of equal triples the last one
is kept. `seen` holds the triples met before; the result comes with those met by now. -/
def newTriples (seen : KeySet Triple) : List Triple → List Triple × KeySet Triple
  | [] => ([], seen)
  | t :: ts =>
    let (rest, seen) := newTriples seen ts
    if alwaysNew t then (t :: rest, seen)
    else if seen.contains t then (rest, seen)
    else (t :: rest, seen.insert t)

/-- The triples of the instances of some solutions. `found` holds the triples so far, the last one first. -/
def instancesFrom (template : List TriplePattern) (nodes : List BlankNode) :
    Nat → KeySet Triple → List Triple → List Solution → List Triple
  | _, _, found, [] => found.reverse
  | seed, seen, found, s :: ss =>
    let made := template.filterMap (·.instantiate? (.fresh nodes seed) s)
    let (new, seen) := newTriples seen made
    instancesFrom template nodes (seed + 1) seen (new.reverse ++ found) ss

/-- What has been found already comes first. -/
theorem instancesFrom_eq (template : List TriplePattern) (nodes : List BlankNode) (seed : Nat)
    (seen : KeySet Triple) (found : List Triple) (ss : List Solution) :
    instancesFrom template nodes seed seen found ss =
      found.reverse ++ instancesFrom template nodes seed seen [] ss := by
  induction ss generalizing seed seen found with
  | nil => simp [instancesFrom]
  | cons s ss ih =>
    simp only [instancesFrom]
    rw [ih, ih _ _ (_ ++ [])]
    simp

/-- The triples that a template makes of solutions, which are numbered from a seed on. -/
def triples (template : List TriplePattern) (seed : Nat) (ss : List Solution) : List Triple :=
  instancesFrom template (template.flatMap (·.blanks)) seed .empty [] ss

end Template

end SparqlAlgebra

import SparqlAlgebra.Solution

/-!
# Triple patterns

Triples with variables in some places: matching them against triples, filling in the bindings of a solution,
and the estimates that decide in which order patterns are joined.
-/

namespace SparqlAlgebra

/-- What stands in the place of a subject or object: a variable or a term. -/
inductive Slot where
  | var (v : Variable)
  | term (t : Term)
  deriving DecidableEq, Inhabited

/-- What stands in the place of a predicate or graph name: a variable or an IRI. -/
inductive IriSlot where
  | var (v : Variable)
  | iri (i : Iri)
  deriving DecidableEq, Inhabited

/-- A triple with variables. -/
structure TriplePattern where
  subject : Slot
  predicate : IriSlot
  object : Slot
  deriving DecidableEq, Inhabited

namespace Slot

/-- The variable of a slot. -/
def var? : Slot → Option Variable
  | .var v => some v
  | .term _ => none

/-- The term of a slot. -/
def term? : Slot → Option Term
  | .var _ => none
  | .term t => some t

/-- The blank node in a place. -/
def blank? : Slot → Option BlankNode
  | .term (.blank b) => some b
  | _ => none

/-- A slot as it is written. -/
def toText : Slot → String
  | .var v => v.toText
  | .term t => t.toText

/-- Fills in the term that the solution binds the variable to. -/
def bind (s : Solution) : Slot → Slot
  | .var v => ((s.get? v).map .term).getD (.var v)
  | .term t => .term t

/-- Matches a term, extending the bindings made so far. -/
def match? (t : Term) : Slot → Solution → Option Solution
  | .var v, s =>
    match s.get? v with
    | some u => if u = t then some s else none
    | none => some (s.insert v t)
  | .term u, s => if u = t then some s else none

end Slot

namespace IriSlot

/-- The variable of a slot for IRIs. -/
def var? : IriSlot → Option Variable
  | .var v => some v
  | .iri _ => none

/-- A slot for IRIs as it is written. -/
def toText : IriSlot → String
  | .var v => v.toText
  | .iri i => i.toText

/-- Fills in the IRI that the solution binds the variable to. A variable that is bound to another kind
of term stays, as nothing can match it. -/
def bind (s : Solution) : IriSlot → IriSlot
  | .var v =>
    match s.get? v with
    | some (.iri i) => .iri i
    | _ => .var v
  | .iri i => .iri i

/-- Matches an IRI, extending the bindings made so far. -/
def match? (i : Iri) : IriSlot → Solution → Option Solution
  | .var v, s => Slot.match? (.iri i) (.var v) s
  | .iri j, s => if j = i then some s else none

end IriSlot

namespace TriplePattern

/-- The variables, each at its first occurrence. -/
def vars (p : TriplePattern) : List Variable :=
  [p.subject.var?, p.predicate.var?, p.object.var?].reduceOption.foldl
    (fun vs v => if vs.contains v then vs else vs ++ [v]) []

/-- Number of places that do not hold a variable. -/
def boundSlots (p : TriplePattern) : Nat :=
  3 - [p.subject.var?, p.predicate.var?, p.object.var?].reduceOption.length

/-- Whether there is no variable. -/
def isBound (p : TriplePattern) : Bool := p.boundSlots == 3

/-- The triple of a pattern without variables whose subject is not a literal. -/
def toTriple? (p : TriplePattern) : Option Triple :=
  match p.subject, p.predicate, p.object with
  | .term s, .iri i, .term o => s.toResource?.map fun s => ⟨s, i, o⟩
  | _, _, _ => none

/-- The pattern that only a triple matches. -/
def ofTriple (t : Triple) : TriplePattern := ⟨.term t.subject.toTerm, .iri t.predicate, .term t.object⟩

/-- The bindings under which the pattern is the triple. -/
def match? (p : TriplePattern) (t : Triple) : Option Solution :=
  (p.subject.match? t.subject.toTerm .empty).bind fun s =>
    (p.predicate.match? t.predicate s).bind fun s => p.object.match? t.object s

/-- Whether the places without a variable hold what the triple has there. -/
def admits (p : TriplePattern) (t : Triple) : Bool :=
  (match p.subject with | .term s => t.subject.isTerm s | .var _ => true) &&
    (match p.object with | .term o => o == t.object | .var _ => true) &&
    (match p.predicate with | .iri i => i == t.predicate | .var _ => true)

/-- Whether the pattern can become the triple. -/
def isMatch (p : TriplePattern) (t : Triple) : Bool := p.admits t && (p.match? t).isSome

/-- A triple that matches a pattern has its terms. -/
theorem admits_of_match? {p : TriplePattern} {t : Triple} {s : Solution} (h : p.match? t = some s) :
    p.admits t = true := by
  obtain ⟨a, ha, h⟩ := Option.bind_eq_some_iff.1 h
  obtain ⟨b, hb, hc⟩ := Option.bind_eq_some_iff.1 h
  simp only [admits, Bool.and_eq_true]
  refine ⟨⟨?_, ?_⟩, ?_⟩
  · cases hs : p.subject <;> simp_all [Slot.match?]
  · cases ho : p.object <;> simp_all [Slot.match?]
  · cases hp : p.predicate <;> simp_all [IriSlot.match?]

/-- A triple is a match exactly if it gives a solution. -/
theorem isMatch_eq (p : TriplePattern) (t : Triple) : p.isMatch t = (p.match? t).isSome := by
  unfold isMatch
  cases h : p.match? t with
  | none => simp
  | some s => simp [admits_of_match? h]

/-- Fills in the bindings of a solution. -/
def bind (p : TriplePattern) (s : Solution) : TriplePattern :=
  ⟨p.subject.bind s, p.predicate.bind s, p.object.bind s⟩

/-- A pattern as it is written. -/
def toText (p : TriplePattern) : String :=
  p.subject.toText ++ " " ++ p.predicate.toText ++ " " ++ p.object.toText

/-- Whether a place narrows the search down. A blank node does not. -/
def isSelective : Slot → Bool
  | .term (.iri _) => true
  | .term (.literal _) => true
  | _ => false

/-- A guess at the number of matches, from the places that are filled. -/
def cost (p : TriplePattern) : Nat :=
  match isSelective p.subject, p.predicate.var?.isNone, isSelective p.object with
  | true, true, true => 1
  | true, true, false => 10
  | true, false, true => 2
  | false, true, true => 10000
  | true, false, false => 100
  | false, false, false => 1000000000
  | false, true, false => 1000000
  | false, false, true => 100000

/-- The position of the first pattern of least cost among those that satisfy the condition. -/
def cheapest (p : TriplePattern → Bool) (ps : List TriplePattern) : Option Nat :=
  (ps.zipIdx.foldl (fun (best : Option (Nat × Nat)) (x : TriplePattern × Nat) =>
    if p x.1 then
      match best with
      | some (c, i) => if x.1.cost < c then some (x.1.cost, x.2) else some (c, i)
      | none => some (x.1.cost, x.2)
    else best) none).map (·.2)

/-- Orders patterns so that each one is connected to those before it if that is possible, the cheapest
first. The fuel is the number of patterns. -/
def orderFrom : Nat → List Variable → List TriplePattern → List TriplePattern
  | 0, _, _ => []
  | fuel + 1, used, ps =>
    let connected := cheapest (fun p => p.vars.any used.contains) ps
    match connected.or (cheapest (fun _ => true) ps) with
    | none => []
    | some i =>
      match ps[i]? with
      | some p => p :: orderFrom fuel (used ++ p.vars) (ps.eraseIdx i)
      | none => []

/-- The order of patterns that follows from their structure alone. -/
def structuralOrder (ps : List TriplePattern) : List TriplePattern := orderFrom ps.length [] ps

end TriplePattern

end SparqlAlgebra

import SparqlAlgebra.Query.Evaluate
import SparqlAlgebra.Update.Operation

/-!
# Updates

An update request carries out its operations one after another. The first that fails ends the request; what
the operations before it have done stays done. An operation that is given by a pattern first collects all
solutions, then deletes, then inserts.
-/

namespace SparqlAlgebra

namespace UpdateOperation

/-- Replaces the dataset, or fails. -/
def change (f : Dataset → Except QueryError Dataset) : Build Unit := do
  let st ← get
  match f st.dataset with
  | .ok d => set (st.withDataset d)
  | .error e => throw e

/-- Inserts quads with fresh blank nodes instead of their own. -/
def insertFresh (quads : List Quad) : Build Unit :=
  modify fun st =>
    let fresh := Renaming.fresh (quads.flatMap (·.blanks)) st.seed
    { st with dataset := st.dataset.insertQuads (quads.map (·.rename fresh)), seed := st.seed + 1 }

/-- Deletes and inserts the instances of templates for some solutions. -/
def applyTemplates (delete insert : List QuadPattern) (rows : List Solution) (st : Store) : Store :=
  let deleted := st.dataset.deleteQuads (QuadPattern.instances delete rows)
  { st with
    dataset := deleted.insertQuads (QuadPattern.freshInstances insert st.seed rows)
    seed := st.seed + rows.length }

/-- Deletes and inserts the instances of templates for the solutions of a pattern. -/
def replace (c : Scope) (delete insert : List QuadPattern) (dataset : Option QueryDataset)
    (pattern : Pattern) : Build Unit := do
  let rows ← Plan.collect (← pattern.plan.fromEmpty (c.withDataset dataset))
  modify (applyTemplates delete insert rows)

/-- Any triple. -/
def anyTriple : TriplePattern := ⟨.var ⟨"s"⟩, .var ⟨"p"⟩, .var ⟨"o"⟩⟩

/-- The pattern of all triples of a graph. -/
def allOf : GraphName → Pattern
  | .default => .bgp [anyTriple]
  | .named iri => .graph (.iri iri) (.bgp [anyTriple])

/-- The graph slot of a fixed graph. -/
def slotOf : GraphName → GraphSlot
  | .default => .default
  | .named iri => .named (.iri iri)

/-- Inserts the triples of a graph into another one. -/
def insertAllOf (c : Scope) (source target : GraphName) : Build Unit :=
  replace c [] [⟨anyTriple, slotOf target⟩] none (allOf source)

/-- Removes the triples of a graph, if there is such a graph. -/
def clearIfThere (name : GraphName) : Build Unit :=
  change fun d => silently true d (d.clear (.single name))

/-- Carries out a transfer between two graphs of which the source is there. -/
def transferBetween (c : Scope) (source target : GraphName) : Transfer → Build Unit
  | .add => insertAllOf c source target
  | .copy => do
    clearIfThere target
    insertAllOf c source target
  | .move => do
    clearIfThere target
    insertAllOf c source target
    clearIfThere source

/-- Whether a transfer has nothing to do, as both graphs are the same one. Only adding looks whether that
graph is there. -/
def isIdle (d : Dataset) (source target : GraphName) : Transfer → Bool
  | .add => source == target && d.hasGraph source
  | .copy => source == target
  | .move => source == target

/-- Carries out a transfer. -/
def executeTransfer (c : Scope) (kind : Transfer) (source target : GraphName) (silent : Bool) :
    Build Unit := do
  let d := (← get).dataset
  if isIdle d source target kind then return ()
  match d.demand source with
  | .ok _ => transferBetween c source target kind
  | .error e => if silent then return () else throw e

/-- Carries out an operation. -/
def execute (c : Scope) : UpdateOperation → Build Unit
  | .insertData quads => insertFresh quads
  | .deleteData quads => change fun d => .ok (d.deleteQuads quads)
  | .deleteInsert delete insert dataset pattern => replace c delete insert dataset pattern
  | .load source silent =>
    if silent then return () else throw (.unsupportedUpdate ("LOAD " ++ source.toText))
  | .clear target silent => change fun d => silently silent d (d.clear target)
  | .drop target silent => change fun d => silently silent d (d.drop target)
  | .create iri silent => change fun d => silently silent d (d.create iri)
  | .transfer kind source target silent => executeTransfer c kind source target silent

end UpdateOperation

/-- Carries out the operations of a request up to the first that fails. -/
def executeAll (c : Scope) : List UpdateOperation → Build Unit
  | [] => return ()
  | op :: ops => do
    op.execute c
    executeAll c ops

end SparqlAlgebra

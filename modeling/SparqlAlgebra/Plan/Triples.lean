import SparqlAlgebra.Join.Bound
import SparqlAlgebra.Path.Reach
import SparqlAlgebra.Plan.Search

/-!
# Plans that look up triples

The patterns at the leaves: basic graph patterns with their searches, and property paths. Blank nodes are
variables that stay hidden.
-/

namespace SparqlAlgebra

/-!
## Blank nodes in patterns

A blank node in a pattern is a variable that the solutions do not show. It is replaced by a variable of a
reserved name before the pattern is evaluated, and the variable is removed afterwards.
-/

namespace HiddenVariable

/-- The variable that stands for a blank node. -/
def ofNode (b : BlankNode) : Variable := ⟨"__bnode_" ++ b.label⟩

/-- The slot with a variable in place of a blank node. -/
def replaceSlot : Slot → Slot
  | .term (.blank b) => .var (ofNode b)
  | s => s

/-- Puts variables for the blank nodes of a triple pattern. -/
def replace (p : TriplePattern) : TriplePattern :=
  ⟨replaceSlot p.subject, p.predicate, replaceSlot p.object⟩

/-- The variables for the blank nodes among some slots. -/
def ofSlots (ss : List Slot) : List Variable := ss.filterMap fun s => s.blank?.map ofNode

/-- The variables for the blank nodes of some patterns. -/
def ofPatterns (ps : List TriplePattern) : List Variable :=
  ofSlots (ps.flatMap fun p => [p.subject, p.object])

/-- Removes hidden variables from solutions. -/
def strip (g : Engine) (hidden : List Variable) (stage : Flow Solution) : Flow Solution :=
  if hidden.isEmpty then stage else g.map (fun s => s.filter fun v _ => !hidden.contains v) stage

end HiddenVariable

/-! ## Plans -/

namespace SearchPlan

/-- Joins solutions with the patterns and then with the searches. -/
def run (c : Settings) (plan : SearchPlan) (source : Flow Solution) (r : GraphRef) : Flow Solution :=
  let joined := if plan.patterns.isEmpty then source else Join.bound c r plan.patterns source
  plan.searches.foldl (fun stage q => q.run c.engine r stage) joined

end SearchPlan

namespace GraphRef

/-- The triples of all graphs. One that is in several of them comes several times. -/
def triples (d : Dataset) (r : GraphRef) : List Triple := r.leaves.flatMap fun name => (d.graph name).triples

end GraphRef

/-- A property path between two ends. -/
structure PathPattern where
  subject : Slot
  path : Path
  object : Slot
  deriving DecidableEq, Inhabited

namespace PathPattern

/-- Joins solutions with a property path. -/
def run (g : Engine) (r : GraphRef) (p : PathPattern) (source : Flow Solution) : Flow Solution :=
  g.mergeMap
    (fun s => .read fun st =>
      g.filterMap s.merge? <| .ofList <|
        Path.solutions (r.triples st.dataset) (p.subject.bind s) p.path (p.object.bind s))
    source

/-- The path with variables in place of blank nodes. -/
def hide (p : PathPattern) : PathPattern :=
  ⟨HiddenVariable.replaceSlot p.subject, p.path, HiddenVariable.replaceSlot p.object⟩

end PathPattern

namespace Plan

/-- The plan of a basic graph pattern. -/
def bgp (ps : List TriplePattern) : Plan := fun c source => do
  match SearchPlan.ofPatterns (ps.map HiddenVariable.replace) with
  | .error e => throw e
  | .ok plan =>
    let stage ← c.onActiveGraph source (plan.run c.settings)
    return HiddenVariable.strip c.engine (HiddenVariable.ofPatterns ps) stage

/-- The plan of several property paths, one after another. -/
def paths (ps : List PathPattern) : Plan := fun c source => do
  let stage ← c.onActiveGraph source fun source r =>
    ps.foldl (fun stage p => p.hide.run c.engine r stage) source
  return HiddenVariable.strip c.engine
    (HiddenVariable.ofSlots (ps.flatMap fun p => [p.subject, p.object])) stage

end Plan

end SparqlAlgebra

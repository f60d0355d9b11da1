import SparqlAlgebra.Query.Evaluate

/-!
# Tables of results

What a results document shows: variables, and for each row the terms that they are bound to. Triples are
shown as rows of three columns.
-/

namespace SparqlAlgebra

/-- Rows of terms under variables. -/
structure ResultTable where
  /-- The columns. -/
  vars : List Variable
  /-- The rows. -/
  rows : List Solution
  deriving DecidableEq, Inhabited

namespace ResultTable

/-- The terms of a row, one for each variable. -/
def cells (t : ResultTable) (row : Solution) : List (Option Term) := t.vars.map row.get?

/-- The bindings of a row, in the order of the variables. -/
def bindings (t : ResultTable) (row : Solution) : List (Variable × Term) :=
  t.vars.filterMap fun v => (row.get? v).map (v, ·)

/-- The column of the subjects. -/
def subject : Variable := ⟨"subject"⟩

/-- The column of the predicates. -/
def predicate : Variable := ⟨"predicate"⟩

/-- The column of the objects. -/
def object : Variable := ⟨"object"⟩

/-- The row of a triple. -/
def rowOfTriple (t : Triple) : Solution :=
  .ofList [(subject, t.subject.toTerm), (predicate, .iri t.predicate), (object, t.object)]

/-- The table of some triples. -/
def ofTriples (ts : List Triple) : ResultTable := ⟨[subject, predicate, object], ts.map rowOfTriple⟩

end ResultTable

end SparqlAlgebra

import SparqlAlgebra.Update.Execute

/-!
# Sessions

Requests to a store: queries, updates, and changes of single triples. A change of the dataset through these
requests forgets the solutions that have been kept, as they may no longer hold.
-/

namespace SparqlAlgebra

/-- What all requests of a session share. -/
structure Session where
  /-- How requests are carried out. -/
  settings : Settings
  /-- What expressions are compiled against. -/
  compiler : Expression.Compiler

namespace Session

/-- The scope of a request, which may bring hints of its own. -/
def scope (x : Session) (hints : Option Hints) : Scope :=
  let c : Scope := ⟨x.settings, x.compiler, .default, none⟩
  (hints.map c.withHints).getD c

/-- The answer to a query. -/
def query (x : Session) (q : Query) (hints : Option Hints) (st : Store) :
    Except QueryError QueryResult × Store :=
  (q.evaluate (x.scope hints)).run st

/-- Carries out an update request. -/
def update (x : Session) (ops : List UpdateOperation) (hints : Option Hints) (st : Store) :
    Except QueryError Unit × Store :=
  let (r, st) := (executeAll (x.scope hints) ops).run st
  (r, st.clearCache)

end Session

namespace Store

/-- The store with a changed dataset. If nothing has changed, the solutions kept are still good. -/
def withChange (st : Store) (changed : Bool) (d : Dataset) : Store :=
  if changed then (st.withDataset d).clearCache else st.withDataset d

/-- Inserts a triple into a graph, which is created if it is not there. Tells whether the triple was not
there before. -/
def insert (st : Store) (name : GraphName) (t : Triple) : Bool × Store :=
  let d := st.dataset.ensure name
  let new := !(d.graph name).contains t
  (new, st.withChange new (d.modify name (·.insert t)))

/-- Removes a triple from the default graph. Tells whether it was there. -/
def remove (st : Store) (t : Triple) : Bool × Store :=
  let found := st.dataset.default.contains t
  (found, st.withChange found (st.dataset.modify .default (·.delete t)))

/-- Whether the default graph has a triple. -/
def contains (st : Store) (t : Triple) : Bool := st.dataset.default.contains t

end Store

end SparqlAlgebra

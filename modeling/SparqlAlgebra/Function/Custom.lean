import SparqlAlgebra.Rdf.Term

/-!
# Custom functions

Functions that a user adds under an IRI. Such a function may give several terms at once.
-/

namespace SparqlAlgebra

/-- What an expression may evaluate to. -/
inductive Value where
  | term (t : Term)
  | sequence (ts : List Term)
  deriving DecidableEq, Inhabited

namespace Value

/-- The value as one term, which is the first one of a sequence. -/
def first? : Value → Option Term
  | .term t => some t
  | .sequence ts => ts.head?

end Value

/-- A function that is called by its IRI. -/
structure CustomFunction where
  /-- Whether it can be called with so many arguments. -/
  accepts : Nat → Bool
  /-- The value for arguments, if the function accepts them. -/
  call : List Term → Option Value

/-- A function without a value. -/
instance : Inhabited CustomFunction := ⟨fun _ => true, fun _ => none⟩

/-- The custom functions that expressions may call. -/
abbrev Registry := List (Iri × CustomFunction)

end SparqlAlgebra

/-!
# RDF terms and triples

IRIs, blank nodes and literals, and the triples made of them. A literal carries either a language tag
or a datatype, never both; the plain string literal is the one whose datatype is `xsd:string`.
-/

namespace SparqlAlgebra

/-- An IRI, as its text. -/
structure Iri where
  text : String
  deriving DecidableEq, Inhabited, Hashable

/-- A blank node, as its label. -/
structure BlankNode where
  label : String
  deriving DecidableEq, Inhabited, Hashable

/-- A variable, as its name without the question mark. -/
structure Variable where
  name : String
  deriving DecidableEq, Inhabited, Hashable

/-- A literal. -/
inductive Literal where
  /-- A lexical form with its datatype. -/
  | typed (text : String) (datatype : Iri)
  /-- A text in a natural language. -/
  | tagged (text : String) (language : String)
  deriving DecidableEq, Inhabited, Hashable

/-- An RDF term. -/
inductive Term where
  | iri (iri : Iri)
  | blank (node : BlankNode)
  | literal (literal : Literal)
  deriving DecidableEq, Inhabited, Hashable

/-- What may be the subject of a triple. -/
inductive Resource where
  | iri (iri : Iri)
  | blank (node : BlankNode)
  deriving DecidableEq, Inhabited, Hashable

/-- An RDF triple. -/
structure Triple where
  subject : Resource
  predicate : Iri
  object : Term
  deriving DecidableEq, Inhabited, Hashable

namespace Resource

/-- A resource as a term. -/
def toTerm : Resource → Term
  | .iri i => .iri i
  | .blank b => .blank b

/-- A resource is used as a term. -/
instance : Coe Resource Term := ⟨toTerm⟩

/-- Whether a resource is the given term. -/
def isTerm : Resource → Term → Bool
  | .iri i, .iri j => i == j
  | .blank b, .blank c => b == c
  | _, _ => false

/-- A term is a given resource exactly if it is that resource as a term. -/
@[simp] theorem isTerm_iff {r : Resource} {t : Term} : r.isTerm t = true ↔ r.toTerm = t := by
  cases r <;> cases t <;> simp [isTerm, toTerm]

end Resource

namespace Term

/-- The resource that a term is, unless it is a literal. -/
def toResource? : Term → Option Resource
  | .iri i => some (.iri i)
  | .blank b => some (.blank b)
  | .literal _ => none

/-- Whether a term is an IRI. -/
def isIri : Term → Bool
  | .iri _ => true
  | _ => false

/-- Whether a term is a blank node. -/
def isBlank : Term → Bool
  | .blank _ => true
  | _ => false

/-- Whether a term is a literal. -/
def isLiteral : Term → Bool
  | .literal _ => true
  | _ => false

/-- A resource is got back from its term. -/
@[simp] theorem toResource?_toTerm (r : Resource) : r.toTerm.toResource? = some r := by
  cases r <;> rfl

/-- A term is a resource exactly if it comes from one. -/
theorem toResource?_eq_some_iff {t : Term} {r : Resource} :
    t.toResource? = some r ↔ t = r.toTerm := by
  cases t <;> cases r <;> simp [toResource?, Resource.toTerm]

end Term

namespace Literal

/-- The lexical form. -/
def text : Literal → String
  | .typed s _ => s
  | .tagged s _ => s

/-- The language tag, if there is one. -/
def language? : Literal → Option String
  | .typed .. => none
  | .tagged _ l => some l

end Literal

end SparqlAlgebra

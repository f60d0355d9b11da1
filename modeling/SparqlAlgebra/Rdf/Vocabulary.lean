import SparqlAlgebra.Rdf.Term

/-!
# Well-known IRIs

The datatypes of XML Schema, the language-tagged string type, the keyword search vocabulary, and the
names of the graphs that have no IRI of their own.
-/

namespace SparqlAlgebra

namespace Xsd

/-- The IRI of a name of XML Schema. -/
def named (name : String) : Iri := ⟨"http://www.w3.org/2001/XMLSchema#" ++ name⟩

/-- The datatype of plain texts. -/
def string : Iri := named "string"

/-- The datatype of truth values. -/
def boolean : Iri := named "boolean"

/-- The datatype of integers of any size. -/
def integer : Iri := named "integer"

/-- The datatype of integers of 32 bits. -/
def int : Iri := named "int"

/-- The datatype of decimal numbers. -/
def decimal : Iri := named "decimal"

/-- The datatype of numbers in single precision. -/
def float : Iri := named "float"

/-- The datatype of numbers in double precision. -/
def double : Iri := named "double"

/-- The datatype of moments. -/
def dateTime : Iri := named "dateTime"

/-- The datatype of days. -/
def date : Iri := named "date"

/-- The datatype of spans of days and times of day. -/
def dayTimeDuration : Iri := named "dayTimeDuration"

/-- The names of `xsd:integer` and the types derived from it. -/
def integerNames : List String :=
  ["integer", "byte", "short", "int", "long", "unsignedByte", "unsignedShort", "unsignedInt",
    "unsignedLong", "positiveInteger", "negativeInteger", "nonPositiveInteger", "nonNegativeInteger"]

end Xsd

namespace Iri

/-- Whether the IRI is `xsd:integer` or a type derived from it. -/
def isIntegerDatatype (i : Iri) : Bool := (Xsd.integerNames.map Xsd.named).contains i

/-- Whether the IRI is a numeric datatype. -/
def isNumericDatatype (i : Iri) : Bool :=
  i == Xsd.decimal || i == Xsd.float || i == Xsd.double || i.isIntegerDatatype

end Iri

/-- The datatype of the language-tagged strings. -/
def rdfLangString : Iri := ⟨"http://www.w3.org/1999/02/22-rdf-syntax-ns#langString"⟩

namespace Literal

/-- The plain string literal. -/
def string (s : String) : Literal := .typed s Xsd.string

/-- The datatype, which is the language-tagged string type if there is a language. -/
def datatype : Literal → Iri
  | .typed _ d => d
  | .tagged .. => rdfLangString

/-- The text of a plain string literal, and of nothing else. -/
def plainText? : Literal → Option String
  | .typed s d => if d = Xsd.string then some s else none
  | .tagged .. => none

/-- The literal of a truth value. -/
def ofBool (b : Bool) : Literal := .typed (if b then "true" else "false") Xsd.boolean

/-- The literal of an integer. -/
def ofInt (i : Int) : Literal := .typed (toString i) Xsd.integer

end Literal

namespace SearchVocabulary

/-- What the predicates of a keyword search start with. -/
def root : String := "http://rdf-pipeline.org/search#"

/-- The IRI of a name in the vocabulary. -/
def named (name : String) : Iri := ⟨root ++ name⟩

/-- The predicate that ties the query text to what is searched. -/
def search : Iri := named "search"

/-- The predicate that says whether every word of the query has to be found. -/
def matchAllTerms : Iri := named "matchAllTerms"

/-- The predicate for the least relevance of a hit. -/
def minRelevance : Iri := named "minRelevance"

/-- The predicate for the greatest relevance of a hit. -/
def maxRelevance : Iri := named "maxRelevance"

/-- The predicate for the first rank of a hit. -/
def minRank : Iri := named "minRank"

/-- The predicate for the last rank of a hit. -/
def maxRank : Iri := named "maxRank"

/-- The predicate for the relevance that is found. -/
def relevance : Iri := named "relevance"

/-- The predicate for the rank that is found. -/
def rank : Iri := named "rank"

end SearchVocabulary

/-- The IRI under which the default graph is known. -/
def defaultGraphIri : Iri := ⟨"urn:rdf-pipeline:default-graph"⟩

/-- The IRI that every union of graphs has. -/
def unionGraphIri : Iri := ⟨"urn:rdf-pipeline:union-graph"⟩

end SparqlAlgebra

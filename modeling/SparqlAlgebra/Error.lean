import SparqlAlgebra.Rdf.Printer

/-!
# Causes of failure

Why a query or an update ends without a result, and the sentence that says so. An expression that has no
value is no failure of this kind.
-/

namespace SparqlAlgebra

/-- What is wrong with a keyword search. -/
inductive SearchFault where
  | noKeyword
  | relevanceBounds (low high : String)
  | rankBounds (low high : Nat)
  | notInPattern (v : Variable)
  | subjectNotVariable (triple : String)
  | objectNotLiteral (triple : String)
  | objectNotNumber (triple : String)
  | objectNotVariable (triple : String)
  | setTwice (triple : String)
  | unknownSetting (triple : String)
  | unboundSearch (v : Variable)
  | noKeywords (v : Variable) (predicate : Iri)
  deriving DecidableEq

/-- Why an evaluation fails. -/
inductive QueryError where
  /-- A graph lacks an optional feature. -/
  | unsupported (graph : Iri) (feature : String)
  | graphExists (graph : Iri)
  | graphMissing (graph : Iri)
  | unboundService
  | unknownFunction (name : Iri)
  | unknownAggregate (name : Iri)
  /-- An aggregate has no value for a group. -/
  | aggregate (v : Variable)
  | search (fault : SearchFault)
  | unsupportedUpdate (operation : String)
  | argumentCount (function : String) (count : Nat)
  | internal (cause : String)
  deriving DecidableEq

namespace SearchFault

/-- What is said about a search that cannot be set up. -/
def message : SearchFault → String
  | .noKeyword => "at least one keyword is required"
  | .relevanceBounds low high =>
    "the minimum relevance " ++ low ++ " is greater than the maximum relevance " ++ high
  | .rankBounds low high =>
    "the minimum rank " ++ toString low ++ " is greater than the maximum rank " ++ toString high
  | .notInPattern v =>
    "the searched variable " ++ v.toText ++ " is not the subject or object of the pattern"
  | .subjectNotVariable t => "the subject of " ++ t ++ " must be a variable"
  | .objectNotLiteral t => "the object of " ++ t ++ " must be a literal"
  | .objectNotNumber t => "the object of " ++ t ++ " is not a valid number"
  | .objectNotVariable t => "the object of " ++ t ++ " must be a variable"
  | .setTwice t => t ++ " configures a setting that has already been set"
  | .unknownSetting t => "unknown search predicate in " ++ t
  | .unboundSearch v => "no pattern binds the searched variable " ++ v.toText
  | .noKeywords v p => "the search for " ++ v.toText ++ " has no " ++ p.toText ++ " triple"

end SearchFault

namespace QueryError

/-- What is said to the user about an error. -/
def message : QueryError → String
  | .unsupported g feature => "The graph " ++ g.toText ++ " does not support " ++ feature
  | .graphExists g => "The graph " ++ g.toText ++ " already exists"
  | .graphMissing g => "The graph " ++ g.toText ++ " does not exist"
  | .unboundService => "The variable encoding the service name is unbound"
  | .unknownFunction f => "The function " ++ f.toText ++ " is not supported"
  | .unknownAggregate f => "The aggregate " ++ f.toText ++ " is not supported"
  | .aggregate v => "The aggregate for " ++ v.toText ++ " could not be computed"
  | .search fault => "Invalid full-text search: " ++ fault.message
  | .unsupportedUpdate operation => "The update operation " ++ operation ++ " is not supported"
  | .argumentCount f n =>
    "An internal error that likely indicates towards a bug in the engine: " ++ f ++ " called with " ++
      toString n ++ " arguments"
  | .internal cause => "An internal error that likely indicates towards a bug in the engine: " ++ cause

end QueryError

end SparqlAlgebra

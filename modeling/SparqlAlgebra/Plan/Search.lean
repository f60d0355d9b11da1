import SparqlAlgebra.Plan.Scope
import SparqlAlgebra.Storage.Search

/-!
# Searches in basic graph patterns

Triples with a predicate of the search vocabulary do not stand for triples of the graph. They set up a keyword
search for their subject, which takes the place of one of the other patterns that mention the subject.
-/

namespace SparqlAlgebra

/-- What the triples about one searched variable say. -/
structure SearchSetup where
  /-- The variable that is searched. -/
  searched : Variable
  /-- The words of the query text. -/
  keywords : Option (List String)
  /-- Whether all words have to be found. -/
  matchAll : Bool
  /-- The least relevance that is asked for. -/
  minRelevance : Option Double
  /-- The greatest relevance that is asked for. -/
  maxRelevance : Option Double
  /-- The first rank that is asked for. -/
  minRank : Option Nat
  /-- The last rank that is asked for. -/
  maxRank : Option Nat
  /-- The variable that takes the relevance. -/
  relevance : Option Variable
  /-- The variable that takes the rank. -/
  rank : Option Variable
  deriving DecidableEq

/-- A search with the variables that take its results. -/
structure BoundSearch where
  /-- The search itself. -/
  query : Search
  /-- Takes the relevance of a hit. -/
  relevance : Option Variable
  /-- Takes the rank of a hit. -/
  rank : Option Variable
  deriving DecidableEq

/-- A basic graph pattern split into patterns to be joined and searches. -/
structure SearchPlan where
  /-- The patterns that are joined. -/
  patterns : List TriplePattern
  /-- The searches, which come after the joins. -/
  searches : List BoundSearch
  deriving DecidableEq

namespace SearchSetup

/-- The setting of a search for a variable before anything has been set. -/
def ofVariable (v : Variable) : SearchSetup :=
  ⟨v, none, false, none, none, none, none, none, none⟩

/-- The object of a triple that sets up a search has to be a literal. -/
def literal (t : TriplePattern) : Except QueryError Literal :=
  match t.object with
  | .term (.literal l) => .ok l
  | _ => .error (.search (.objectNotLiteral t.toText))

/-- The object of a triple that gives a bound has to be a number in the way it is read. -/
def number {α : Type} (read : String → Option α) (t : TriplePattern) : Except QueryError α := do
  let l ← literal t
  match read l.text with
  | some x => return x
  | none => throw (.search (.objectNotNumber t.toText))

/-- The object of a triple that names a result has to be a variable. -/
def target (t : TriplePattern) : Except QueryError Variable :=
  match t.object with
  | .var v => .ok v
  | _ => .error (.search (.objectNotVariable t.toText))

/-- Refuses a second value. -/
def once {α : Type} (present : Option α) (t : TriplePattern) (x : α) : Except QueryError (Option α) :=
  if present.isSome then .error (.search (.setTwice t.toText)) else .ok (some x)

/-- The keywords of a literal. -/
def keywordsOf (l : Literal) : List String := (Text.words l.text.toList).map String.ofList

/-- Reads the rank of a literal. -/
def readRank (s : String) : Option Nat := readNat64? s.toList

/-- Takes in what one triple with the given predicate says. -/
def apply (s : SearchSetup) (t : TriplePattern) (p : Iri) : Except QueryError SearchSetup :=
  if p = SearchVocabulary.search then do
    return { s with keywords := ← once s.keywords t (keywordsOf (← literal t)) }
  else if p = SearchVocabulary.matchAllTerms then do
    let l ← literal t
    return { s with matchAll := l.text == "true" || l.text == "1" }
  else if p = SearchVocabulary.minRelevance then do
    return { s with minRelevance := ← once s.minRelevance t (← number Binary.ofText? t) }
  else if p = SearchVocabulary.maxRelevance then do
    return { s with maxRelevance := ← once s.maxRelevance t (← number Binary.ofText? t) }
  else if p = SearchVocabulary.minRank then do
    return { s with minRank := ← once s.minRank t (← number readRank t) }
  else if p = SearchVocabulary.maxRank then do
    return { s with maxRank := ← once s.maxRank t (← number readRank t) }
  else if p = SearchVocabulary.relevance then do
    return { s with relevance := ← once s.relevance t (← target t) }
  else if p = SearchVocabulary.rank then do
    return { s with rank := ← once s.rank t (← target t) }
  else .error (.search (.unknownSetting t.toText))

/-- Takes in a triple for its subject among the setups so far, or begins a new one. -/
def applyTo (t : TriplePattern) (p : Iri) (v : Variable) :
    List SearchSetup → Except QueryError (List SearchSetup)
  | [] => do return [← (ofVariable v).apply t p]
  | s :: ss =>
    if s.searched = v then do return (← s.apply t p) :: ss
    else do return s :: (← applyTo t p v ss)

/-- The setups of some search triples, by the first mention of their variables. -/
def ofTriples : List TriplePattern → List SearchSetup → Except QueryError (List SearchSetup)
  | [], ss => .ok ss
  | t :: ts, ss =>
    match t.subject, t.predicate with
    | .var v, .iri p => do ofTriples ts (← applyTo t p v ss)
    | _, _ => .error (.search (.subjectNotVariable t.toText))

/-- The search that a setup and the pattern in its place make. -/
def toSearch (s : SearchSetup) (p : TriplePattern) : Except QueryError BoundSearch := do
  let some keywords := s.keywords | throw (.search (.noKeywords s.searched SearchVocabulary.search))
  let q : Search :=
    ⟨p, s.searched, keywords, s.matchAll, s.minRelevance, s.maxRelevance, s.minRank, s.maxRank⟩
  q.validate
  return ⟨q, s.relevance, s.rank⟩

/-- Whether a pattern has the variable as its subject or object. -/
def mentions (v : Variable) (p : TriplePattern) : Bool := p.subject == .var v || p.object == .var v

/-- Lets each setup take the first pattern that mentions its variable. -/
def takePatterns : List SearchSetup → List TriplePattern → Except QueryError SearchPlan
  | [], ps => .ok ⟨ps, []⟩
  | s :: ss, ps =>
    match ps.findIdx? (mentions s.searched) with
    | none => .error (.search (.unboundSearch s.searched))
    | some i => do
      let q ← s.toSearch (ps[i]?.getD default)
      let plan ← takePatterns ss (ps.eraseIdx i)
      return { plan with searches := q :: plan.searches }

end SearchSetup

namespace SearchPlan

/-- Whether a pattern belongs to a search. -/
def isSearchTriple (p : TriplePattern) : Bool :=
  match p.predicate with
  | .iri i => SearchVocabulary.root.toList.isPrefixOf i.text.toList
  | .var _ => false

/-- Splits a basic graph pattern. -/
def ofPatterns (ps : List TriplePattern) : Except QueryError SearchPlan := do
  let (about, rest) := ps.partition isSearchTriple
  let setups ← SearchSetup.ofTriples about []
  SearchSetup.takePatterns setups rest

end SearchPlan

namespace BoundSearch

/-- Sets the variables that take the results of a hit. -/
def bindResults (q : BoundSearch) (h : Hit) (s : Solution) : Solution :=
  let s := match q.relevance with
    | some v => s.insert v (.literal (Numeric.double h.relevance).toLiteral)
    | none => s
  match q.rank with
  | some v => s.insert v (.literal (.ofInt h.rank))
  | none => s

/-- The pattern of a search for one solution. The searched variable stays open. -/
def patternFor (q : BoundSearch) (s : Solution) : TriplePattern :=
  q.query.pattern.bind (s.erase q.query.searched)

/-- Joins a solution with a hit. -/
def join? (q : BoundSearch) (s : Solution) (p : TriplePattern) (h : Hit) : Option Solution :=
  ((p.match? h.triple).bind s.merge?).map (q.bindResults h)

/-- Joins solutions with the hits of a search. -/
def run (g : Engine) (r : GraphRef) (q : BoundSearch) (source : Flow Solution) : Flow Solution :=
  g.mergeMap
    (fun s =>
      let p := q.patternFor s
      match Search.run g r { q.query with pattern := p } with
      | .ok hits => g.filterMap (q.join? s p) hits
      | .error e => .fail e)
    source

end BoundSearch

end SparqlAlgebra

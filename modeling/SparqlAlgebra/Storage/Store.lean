import SparqlAlgebra.Stage.Engine
import SparqlAlgebra.Storage.Dataset

/-!
# Stores

A dataset together with the solutions of basic graph patterns that have been kept from earlier evaluations,
and the settings under which it is read.
-/

namespace SparqlAlgebra

/-- How patterns are ordered if no estimates are at hand. -/
inductive JoinOrdering where
  | structural
  | asWritten
  deriving DecidableEq, Inhabited

/-- What a query may ask of its evaluation. -/
structure Hints where
  /-- How many solutions a bound join takes at once. -/
  batchSize : Nat
  /-- In which order patterns are joined. -/
  ordering : JoinOrdering
  /-- Whether kept solutions may be used. -/
  useCache : Bool
  deriving DecidableEq, Inhabited

/-- The hints of a query that gives none. -/
def Hints.standard : Hints := ⟨15, .structural, false⟩

/-- How operators and joins are carried out. -/
structure Settings where
  /-- Which engine carries out the operators. -/
  engine : Engine
  /-- What the query asks of its evaluation. -/
  hints : Hints
  deriving DecidableEq, Inhabited

/-- What an entry of a cache is found by: the IRI of the graph and the text of the patterns. -/
structure CacheKey where
  /-- The IRI of the graph. -/
  graph : String
  /-- The text of the patterns. -/
  patterns : String
  deriving DecidableEq

namespace CacheKey

/-- The key of patterns on a graph: its IRI and their text. -/
def ofPatterns (graph : Iri) (ps : List TriplePattern) : CacheKey :=
  ⟨graph.text, String.intercalate " . " (ps.map (·.toText))⟩

end CacheKey

/-- Solutions of basic graph patterns that have been kept. -/
structure Cache where
  /-- How many entries there may be. -/
  capacity : Nat
  /-- The entries, by their keys. -/
  entries : List (CacheKey × List Solution)
  deriving DecidableEq, Inhabited

namespace Cache

/-- A cache without entries. -/
def empty (capacity : Nat) : Cache := ⟨capacity, []⟩

/-- The rows kept for patterns on a graph. -/
def get? (c : Cache) (graph : Iri) (ps : List TriplePattern) : Option (List Solution) :=
  c.entries.lookup (.ofPatterns graph ps)

/-- Keeps solutions. A full cache drops its oldest entry first. -/
def insert (c : Cache) (graph : Iri) (ps : List TriplePattern) (ss : List Solution) : Cache :=
  let key := CacheKey.ofPatterns graph ps
  if c.capacity = 0 then c
  else
    let kept := if c.entries.length ≥ c.capacity then c.entries.drop 1 else c.entries
    { c with entries := kept.filter (fun e => e.1 != key) ++ [(key, ss)] }

/-- Forgets all entries. -/
def clear (c : Cache) : Cache := { c with entries := [] }

/-- The number of entries. -/
def size (c : Cache) : Nat := c.entries.length

end Cache

/-- A dataset with what has been learnt about it. -/
structure Store where
  /-- The dataset. -/
  dataset : Dataset
  /-- The solutions kept, if any are to be kept. -/
  cache : Option Cache
  /-- The next seed for values that are drawn. -/
  seed : Nat
  deriving Inhabited

namespace Store

/-- The store with another dataset. -/
def withDataset (s : Store) (d : Dataset) : Store := { s with dataset := d }

/-- Forgets all solutions that have been kept. -/
def clearCache (s : Store) : Store := { s with cache := s.cache.map Cache.clear }

end Store

/-- A stage whose items depend on a store. -/
abbrev Flow (α : Type) := Stage Store QueryError α

end SparqlAlgebra

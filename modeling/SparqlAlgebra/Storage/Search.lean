import SparqlAlgebra.Join.Bgp
import SparqlAlgebra.Text.Basic
import SparqlAlgebra.Text.Case
import SparqlAlgebra.Value.Order

/-!
# Keyword search

A search looks for keywords in the texts that a variable of a pattern stands for. The relevance of a text is
the fraction of its words in which a keyword occurs. Bounds on the rank ask for the matches to be numbered
by descending relevance.
-/

namespace SparqlAlgebra

/-- A search for keywords. -/
structure Search where
  /-- The pattern that a hit has to match. -/
  pattern : TriplePattern
  /-- The variable whose texts are searched. -/
  searched : Variable
  /-- The words that are looked for. -/
  keywords : List String
  /-- Whether every keyword has to occur. -/
  matchAll : Bool
  /-- The least relevance of a hit. -/
  minRelevance : Option Double
  /-- The greatest relevance of a hit. -/
  maxRelevance : Option Double
  /-- The first rank of a hit. -/
  minRank : Option Nat
  /-- The last rank of a hit. -/
  maxRank : Option Nat
  deriving DecidableEq

/-- A triple found by a search. -/
structure Hit where
  /-- The triple that was found. -/
  triple : Triple
  /-- How well it fits the words. -/
  relevance : Double
  /-- The position among all matches, or minus one if they are not numbered. -/
  rank : Int
  deriving DecidableEq

/-- The place of a pattern whose texts are searched. -/
inductive SearchPlace where
  | subject
  | object
  deriving DecidableEq

namespace Search

/-- Whether matches are numbered. -/
def isRanked (q : Search) : Bool := q.minRank.isSome || q.maxRank.isSome

/-- The place of the searched variable; the object goes before the subject. -/
def place? (q : Search) : Option SearchPlace :=
  if q.pattern.object = .var q.searched then some .object
  else if q.pattern.subject = .var q.searched then some .subject
  else none

/-- The bounds on the relevance if no number can lie between them. -/
def crossedRelevance? (q : Search) : Option (Double × Double) := do
  let low ← q.minRelevance
  let high ← q.maxRelevance
  if high.lt low then some (low, high) else none

/-- The bounds on the rank if no number can lie between them. -/
def crossedRank? (q : Search) : Option (Nat × Nat) := do
  let low ← q.minRank
  let high ← q.maxRank
  if high < low then some (low, high) else none

/-- What is wrong with a search, if anything is. -/
def fault? (q : Search) : Option SearchFault :=
  if q.keywords.isEmpty then some .noKeyword
  else
    match q.crossedRelevance?, q.crossedRank?, q.place? with
    | some (low, high), _, _ => some (.relevanceBounds low.toText high.toText)
    | none, some (low, high), _ => some (.rankBounds low high)
    | none, none, none => some (.notInPattern q.searched)
    | none, none, some _ => none

/-- Whether the bounds of a search make sense. -/
def validate (q : Search) : Except QueryError Unit :=
  match q.fault? with
  | some f => .error (.search f)
  | none => .ok ()

/-- The number of words in which a keyword occurs, and the number of all words. Without every keyword in a
search for all of them there is no match. -/
def wordCounts (q : Search) (text : String) : Nat × Nat :=
  let text := (Text.toLower text).toList
  let keywords := q.keywords.map fun k => (Text.toLower k).toList
  let words := Text.words text
  if q.matchAll && !keywords.all (fun k => Text.occursIn k text) then (0, words.length)
  else ((words.filter fun w => keywords.any fun k => Text.occursIn k w).length, words.length)

/-- The relevance of a text. -/
def relevance (q : Search) (text : String) : Double :=
  let (n, d) := q.wordCounts text
  if d = 0 then Binary.ofInt 0 else Binary.ofInt n / Binary.ofInt d

/-- Whether a relevance lies within the bounds. It has to be positive. -/
def acceptsRelevance (q : Search) (x : Double) : Bool :=
  (Binary.ofInt 0 : Double).lt x && (q.minRelevance.map fun m => m.le x).getD true &&
    (q.maxRelevance.map fun m => x.le m).getD true

/-- Whether a rank lies within the bounds. -/
def acceptsRank (q : Search) (n : Nat) : Bool :=
  (q.minRank.map fun m => decide (m ≤ n)).getD true && (q.maxRank.map fun m => decide (n ≤ m)).getD true

/-- The text of a term that can be searched. -/
def textOf? : Term → Option String
  | .iri i => some i.text
  | .literal l => some l.text
  | .blank _ => none

/-- The term at the place that is searched. -/
def termAt (place : SearchPlace) (t : Triple) : Term :=
  match place with
  | .subject => t.subject.toTerm
  | .object => t.object

/-- The hit that a triple is, without a rank. -/
def score? (q : Search) (place : SearchPlace) (t : Triple) : Option Hit :=
  (textOf? (termAt place t)).bind fun text =>
    let x := q.relevance text
    if q.acceptsRelevance x then some ⟨t, x, -1⟩ else none

/-- Numbers hits by descending relevance and keeps those within the bounds. -/
def rankHits (q : Search) (hs : List Hit) : List Hit :=
  let sorted := hs.mergeSort fun a b => Double.order b.relevance a.relevance != .gt
  (sorted.zipIdx.filter fun x => q.acceptsRank x.2).map fun (h, i) => { h with rank := i }

/-- The hits of a search in a graph. -/
def run (g : Engine) (r : GraphRef) (q : Search) : Except QueryError (Flow Hit) :=
  match q.fault?, q.place? with
  | some f, _ => .error (.search f)
  | none, none => .error (.search (.notInPattern q.searched))
  | none, some place =>
    let scored := g.filterMap (q.score? place) (r.find g q.pattern)
    .ok (if q.isRanked then g.rearrange q.rankHits scored else scored)

end Search

end SparqlAlgebra

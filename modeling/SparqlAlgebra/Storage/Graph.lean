import SparqlAlgebra.KeySet
import SparqlAlgebra.TriplePattern

/-!
# Graphs in memory

A graph keeps its triples in the order of their insertion, each once. What it can do beyond finding triples
is declared by its capabilities.
-/

namespace SparqlAlgebra

/-- What a graph can do beyond finding triples. -/
structure Capabilities where
  /-- It can tell how many triples match a pattern. -/
  estimate : Bool
  /-- It evaluates several basic graph patterns in one go. -/
  union : Bool
  deriving DecidableEq, Inhabited

namespace Capabilities

/-- A graph that can do nothing beyond storing. -/
def none : Capabilities := ⟨false, false⟩

/-- The capabilities as they are written. -/
def toText (c : Capabilities) : String :=
  "[" ++ String.intercalate ", "
    ((if c.estimate then ["estimate-cardinality"] else []) ++
      (if c.union then ["evaluate-union"] else [])) ++ "]"

end Capabilities

/-- A set of triples that remembers the order of their insertion. -/
structure Graph where
  /-- The name of the graph. -/
  iri : Iri
  /-- What the graph can do beyond storing. -/
  capabilities : Capabilities
  /-- The triples, the one inserted last in front. -/
  latest : List Triple
  /-- The same triples for looking them up. -/
  index : KeySet Triple
  /-- No triple occurs twice. -/
  nodup : latest.Nodup
  /-- The index has exactly the triples of the list. -/
  contains_index : ∀ t, index.contains t = true ↔ t ∈ latest

namespace Graph

/-- A graph without triples. -/
def empty (iri : Iri) (capabilities : Capabilities) : Graph :=
  ⟨iri, capabilities, [], .empty, .nil, by simp⟩

instance : Inhabited Graph := ⟨empty default default⟩

/-- The triples in the order of their insertion. -/
def triples (g : Graph) : List Triple := g.latest.reverse

/-- No triple is listed twice. -/
theorem nodup_triples (g : Graph) : g.triples.Nodup :=
  List.pairwise_reverse.2 (g.nodup.imp Ne.symm)

/-- Whether a triple is there, by the index. -/
def contains (g : Graph) (t : Triple) : Bool := g.index.contains t

/-- The index has the triples of the list. -/
@[simp] theorem contains_iff_mem {g : Graph} {t : Triple} : g.contains t = true ↔ t ∈ g.triples := by
  simp [contains, triples, g.contains_index]

/-- Appends a triple that is not there yet. -/
def insert (g : Graph) (t : Triple) : Graph :=
  if h : g.index.contains t then g
  else
    { g with
      latest := t :: g.latest
      index := g.index.insert t
      nodup := List.nodup_cons.2 ⟨fun ht => h ((g.contains_index t).2 ht), g.nodup⟩
      contains_index := fun u => by simp [g.contains_index, eq_comm (a := u) (b := t)] }

/-- A new triple comes last, one that is there stays where it is. -/
theorem triples_insert (g : Graph) (t : Triple) :
    (g.insert t).triples = if t ∈ g.triples then g.triples else g.triples ++ [t] := by
  simp only [insert, triples, List.mem_reverse, ← g.contains_index]
  split <;> simp

/-- Removes a triple. -/
def delete (g : Graph) (t : Triple) : Graph :=
  if g.contains t then
    { g with
      latest := g.latest.filter (· != t)
      index := g.index.erase t
      nodup := g.nodup.filter _
      contains_index := fun u => by simp [g.contains_index, and_comm, eq_comm (a := u) (b := t)] }
  else g

/-- A deletion leaves all other triples as they are. -/
theorem triples_delete (g : Graph) (t : Triple) : (g.delete t).triples = g.triples.filter (· != t) := by
  unfold delete
  split
  · simp [triples, List.filter_reverse]
  · rename_i h
    refine (List.filter_eq_self.2 fun u hu => ?_).symm
    rw [bne_iff_ne]
    rintro rfl
    exact h (contains_iff_mem.2 hu)

/-- Removes the triples of a list, which are looked up in a set. -/
def deleteSet (g : Graph) (ts : List Triple) : Graph :=
  let dead := KeySet.ofList ts
  { g with
    latest := g.latest.filter fun t => !dead.contains t
    index := g.index.eraseAll ts
    nodup := g.nodup.filter _
    contains_index := fun t => by simp [dead, g.contains_index, and_comm] }

/-- Deleting a set leaves the triples that are not in it. -/
theorem triples_deleteSet (g : Graph) (ts : List Triple) :
    (g.deleteSet ts).triples = g.triples.filter (· ∉ ts) := by
  simp only [deleteSet, triples, List.filter_reverse]
  congr 1
  apply List.filter_congr
  intro t _
  rw [Bool.eq_iff_iff]
  simp

/-- Removes the triples of a list. -/
def deleteAll (g : Graph) : List Triple → Graph
  | [] => g
  | [t] => g.delete t
  | ts => g.deleteSet ts

/-- Deleting triples one by one leaves the triples that are not among them. -/
theorem triples_deleteAll (g : Graph) (ts : List Triple) :
    (g.deleteAll ts).triples = g.triples.filter (· ∉ ts) := by
  unfold deleteAll
  split
  · exact (List.filter_eq_self.2 (by simp)).symm
  · rename_i t
    rw [triples_delete]
    apply List.filter_congr
    intro u _
    rw [Bool.eq_iff_iff]
    simp
  · exact triples_deleteSet g ts

/-- Removes all triples. -/
def clear (g : Graph) : Graph := { empty g.iri g.capabilities with }

/-- A cleared graph has no triples. -/
@[simp] theorem triples_clear (g : Graph) : g.clear.triples = [] := rfl

/-- Inserts the triples of a list, one after another. -/
def insertAll (g : Graph) (ts : List Triple) : Graph := ts.foldl insert g

/-- The triples that match a pattern. A pattern without variables is looked up. -/
def find (g : Graph) (p : TriplePattern) : List Triple :=
  match p.toTriple? with
  | some t => if g.contains t then [t] else []
  | none => (g.latest.filter p.isMatch).reverse

/-- Number of triples that match a pattern. -/
def count (g : Graph) (p : TriplePattern) : Nat := g.latest.countP p.isMatch

end Graph

end SparqlAlgebra

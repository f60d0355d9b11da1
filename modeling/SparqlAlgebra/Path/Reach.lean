import SparqlAlgebra.Algebra.Pattern
import SparqlAlgebra.KeySet

/-!
# Reaching terms through paths

A property path relates terms of a list of triples. The terms that are related to a given one are found by
following the path from it, in either direction; closures follow a path until no new term turns up. Lists of
results hold each term once, in the order of discovery.
-/

namespace SparqlAlgebra

namespace Path

/-- Which way a path is followed. -/
inductive Direction where
  | forward
  | backward
  deriving DecidableEq

namespace Direction

/-- The other direction. -/
def flip : Direction → Direction
  | .forward => .backward
  | .backward => .forward

/-- Whether a step over a triple starts at the given term. -/
def startsAt (t : Triple) (x : Term) : Direction → Bool
  | .forward => t.subject.isTerm x
  | .backward => t.object == x

/-- Where a step over a triple ends. -/
def target (t : Triple) : Direction → Term
  | .forward => t.object
  | .backward => t.subject.toTerm

end Direction

/-- The terms one step from a given one, over the triples whose predicate is accepted. -/
def step (ts : List Triple) (accepts : Iri → Bool) (d : Direction) (x : Term) : List Term :=
  firsts ((ts.filter fun t => d.startsAt t x && accepts t.predicate).map d.target)

/-- The terms that follow, for each term of a list. -/
def follow (next : Term → List Term) (xs : List Term) : List Term := firsts (xs.flatMap next)

/-- Follows a step from the terms on a stack, over and over. `seen` holds the terms found so far, `found` the
same with the last one first, and the fuel bounds the number of steps. -/
def closeFrom (next : Term → List Term) : Nat → KeySet Term → List Term → List Term → List Term
  | 0, _, found, _ => found.reverse
  | _ + 1, _, found, [] => found.reverse
  | fuel + 1, seen, found, x :: stack =>
    let new := (next x).filter fun y => !seen.contains y
    closeFrom next fuel (seen.insertAll new) (new.reverse ++ found) (new.reverse ++ stack)

/-- A bound on the steps of a closure: each term of the triples is followed at most once, and the start at
most twice. -/
def closeFuel (ts : List Triple) : Nat := 2 * ts.length + 2

/-- The terms reached by any number of steps, or by at least one. -/
def close (ts : List Triple) (next : Term → List Term) (includeStart : Bool) (x : Term) : List Term :=
  let found := if includeStart then [x] else []
  closeFrom next (closeFuel ts) (.ofList found) found [x]

/-- The terms to which a path leads from a given one. -/
def reach (ts : List Triple) : Path → Direction → Term → List Term
  | .iri i, d => step ts (· == i) d
  | .negated is, d => step ts (fun i => !is.contains i) d
  | .inverse p, d => p.reach ts d.flip
  | .sequence p q, .forward => fun x => follow (q.reach ts .forward) (p.reach ts .forward x)
  | .sequence p q, .backward => fun x => follow (p.reach ts .backward) (q.reach ts .backward x)
  | .alternative p q, d => fun x => firsts (p.reach ts d x ++ q.reach ts d x)
  | .zeroOrMore p, d => close ts (p.reach ts d) true
  | .oneOrMore p, d => close ts (p.reach ts d) false
  | .zeroOrOne p, d => fun x => firsts (p.reach ts d x ++ [x])

/-- All subjects and objects. -/
def nodes (ts : List Triple) : List Term := firsts (ts.flatMap fun t => [t.subject.toTerm, t.object])

/-- The terms that follow from each of some terms. -/
def tabulate (next : Term → List Term) (xs : List Term) : Std.TreeMap (List String) (List Term) :=
  xs.foldl (fun table x => table.insert x.key (next x)) ∅

/-- The terms that follow from a term, looked up if it has an entry. -/
def nextIn (next : Term → List Term) (table : Std.TreeMap (List String) (List Term)) (x : Term) :
    List Term :=
  match table[x.key]? with
  | some ys => ys
  | none => next x

/-- A table filled from a function stands for that function, also with one more entry. -/
theorem nextIn_insert {next : Term → List Term} {table : Std.TreeMap (List String) (List Term)}
    (h : nextIn next table = next) (x : Term) : nextIn next (table.insert x.key (next x)) = next := by
  funext y
  simp only [nextIn, Std.TreeMap.getElem?_insert]
  by_cases hxy : x.key = y.key
  · simp [Term.key_injective x y hxy]
  · simpa [hxy, nextIn] using congrFun h y

/-- Looking up changes nothing. -/
theorem nextIn_tabulate (next : Term → List Term) (xs : List Term) :
    nextIn next (tabulate next xs) = next := by
  suffices ∀ table, nextIn next table = next →
      nextIn next (xs.foldl (fun table x => table.insert x.key (next x)) table) = next from
    this ∅ (by funext x; simp [nextIn])
  induction xs with
  | nil => exact fun _ h => h
  | cons x xs ih => exact fun table h => ih _ (nextIn_insert h x)

/-- The pairs of each start with the terms that follow from it. -/
def pairsFrom (next : Term → List Term) (starts : List Term) : List (Term × Term) :=
  firsts (starts.flatMap fun x => (next x).map fun y => (x, y))

/-- The pairs of each start with the terms reached from it by any number of steps, or by at least one. Each
step over a term of the triples is taken once for all starts. -/
def closePairs (ts : List Triple) (next : Term → List Term) (includeStart : Bool) (starts : List Term) :
    List (Term × Term) :=
  let table := tabulate next (nodes ts)
  pairsFrom (close ts (nextIn next table) includeStart) starts

/-- All pairs that a path relates. A path that may be empty relates only terms of the triples. -/
def pairs (ts : List Triple) : Path → List (Term × Term)
  | .iri i => firsts ((ts.filter fun t => t.predicate == i).map fun t => (t.subject.toTerm, t.object))
  | .negated is =>
    firsts ((ts.filter fun t => !is.contains t.predicate).map fun t => (t.subject.toTerm, t.object))
  | .inverse p => (p.pairs ts).map fun (x, y) => (y, x)
  | .sequence p q =>
    let found := p.pairs ts
    let table := tabulate (q.reach ts .forward) (firsts (found.map (·.2)))
    firsts (found.flatMap fun (x, y) => (nextIn (q.reach ts .forward) table y).map fun z => (x, z))
  | .alternative p q => firsts (p.pairs ts ++ q.pairs ts)
  | .zeroOrMore p => closePairs ts (p.reach ts .forward) true (nodes ts)
  | .zeroOrOne p => pairsFrom (reach ts (.zeroOrOne p) .forward) (nodes ts)
  | .oneOrMore p => closePairs ts (p.reach ts .forward) false (firsts ((p.pairs ts).map (·.1)))

/-- The bindings of the ends of a path. Each binds exactly the variables among the ends. -/
def solutions (ts : List Triple) (subject : Slot) (p : Path) (object : Slot) : List Solution :=
  match subject, object with
  | .term x, .term y => if (p.reach ts .forward x).contains y then [.empty] else []
  | .term x, .var w => (p.reach ts .forward x).map fun y => Solution.empty.insert w y
  | .var v, .term y => (p.reach ts .backward y).map fun x => Solution.empty.insert v x
  | .var v, .var w =>
    if v = w then
      ((p.pairs ts).filter fun (x, y) => x == y).map fun (x, _) => Solution.empty.insert v x
    else (p.pairs ts).map fun (x, y) => (Solution.empty.insert v x).insert w y

end Path

end SparqlAlgebra

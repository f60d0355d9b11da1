import Mathlib.Data.Multiset.Dedup
import SparqlAlgebra.Proofs.Algebra.Meaning

/-!
# Patterns as functions of bags

A pattern turns the bag of the rows that it is handed into the bag of its solutions joined with them. This says
nothing about how, where and in which order the rows are found: engines, batches and estimates do not occur, and of
the graphs only what a basic graph pattern or a path matches for a row. A pattern whose solutions depend on the order
of the rows, or that looks outside the dataset, has no such function and is given the empty bag.
-/

namespace SparqlAlgebra

/-- What becomes of the rows that are handed to a pattern. -/
abbrev Rows := Multiset Solution → Multiset Solution

/-- What basic graph patterns and paths match for a row, for each active graph. -/
structure LeafRows where
  /-- What a basic graph pattern matches for a row. -/
  bgp : ActiveGraph → List TriplePattern → Solution → Multiset Solution
  /-- What a path matches for a row. -/
  path : ActiveGraph → PathPattern → Solution → Multiset Solution

namespace GraphRef

/-- What a row is joined with in a basic graph pattern. -/
def bgpRows (d : Dataset) (r : GraphRef) (ps : List TriplePattern) (s : Solution) : Multiset Solution :=
  (solutions (r.tripleSet d) ps).filterMap s.merge?

/-- What a row is joined with in a path between the ends that it fills in. -/
def pathRows (d : Dataset) (r : GraphRef) (q : PathPattern) (s : Solution) : Multiset Solution :=
  Multiset.filterMap s.merge? (Path.solutions (r.triples d) (q.subject.bind s) q.path (q.object.bind s))

end GraphRef

namespace Scope

/-- What a row finds in the active graph, from what it finds in a graph. For a variable this is the graph that the row
binds it to, if it can be seen, or every graph that can be seen. -/
def find (c : Scope) (d : Dataset) (f : GraphRef → Solution → Multiset Solution) (s : Solution) :
    ActiveGraph → Multiset Solution
  | .default => f (.single .default) s
  | .named iri => f (.single (.named iri)) s
  | .union iris => f (.union ((iris.filter d.hasNamed).map fun iri => .single (.named iri))) s
  | .bound v =>
    match s.get? v with
    | some (.iri iri) => if c.canSee d iri then f (.single (.named iri)) s else 0
    | some _ => 0
    | none => (c.namedGraphs d : Multiset Iri).bind fun iri => f (.single (.named iri)) (s.insert v (.iri iri))

/-- What patterns match in a dataset. -/
def leafRows (c : Scope) (d : Dataset) : LeafRows where
  bgp active ps s := c.find d (fun r => r.bgpRows d ps) s active
  path active q s := c.find d (fun r => r.pathRows d q) s active

end Scope

namespace Rows

/-- Whether patterns have solutions for a row. -/
def answers (tests : List Rows) (s : Solution) : List Bool := tests.map fun T => decide (T {s} ≠ 0)

/-- The value of an expression for a row. -/
def value? (k : Expression.Compiler) (e : Expression) (tests : List Rows) (s : Solution) : Option Value :=
  (e.ready k).toOption.bind fun r => r.root.value? ⟨s, answers tests s, 0⟩

/-- Whether an expression is true for a row. -/
def isTrue (k : Expression.Compiler) (e : Expression) (tests : List Rows) (s : Solution) : Bool :=
  ((e.ready k).toOption.bind fun r => r.root.truth? ⟨s, answers tests s, 0⟩) == some true

/-- The rows for which an expression is true. -/
def select (k : Expression.Compiler) (e : Expression) (tests : List Rows) : Rows :=
  Multiset.filter fun s => isTrue k e tests s = true

/-- The rows that a filter keeps. A test that stands alone is not evaluated as an expression. -/
def filter (k : Expression.Compiler) (e : Expression) (tests : List Rows) : Rows :=
  match e, tests with
  | .hasSolution _, [T] => Multiset.filter fun s => T {s} ≠ 0
  | .not (.hasSolution _), [T] => Multiset.filter fun s => T {s} = 0
  | _, _ => select k e tests

/-- The rows of both parts, for each row of the bag. -/
def union (a b : Rows) : Rows := fun V => V.bind fun s => a {s} + b {s}

/-- Each row with its matches, or alone if it has none. -/
def leftJoin (a b condition : Rows) : Rows := fun V =>
  (a V).bind fun s => if condition (b {s}) = 0 then {s} else condition (b {s})

/-- The rows of the first part that agree with none of the second part, or share no variable with it. -/
def minus (a b : Rows) : Rows := fun V =>
  (a V).filter fun s => ∀ t ∈ b {Solution.empty}, s.isCompatible t = false

/-- The rows of a pattern with one more variable, where it has a value and is open. -/
def extend (k : Expression.Compiler) (v : Variable) (e : Expression) (tests : List Rows) (inner : Rows) : Rows :=
  fun V => (inner V).bind fun s => ↑(Plan.bindValue s v (value? k e tests s))

/-- The rows of a table, joined with each row of the bag. -/
def values (vs : List Variable) (rows : List (List (Option Term))) : Rows := fun V =>
  Solution.join V (rows.map (Plan.rowSolution vs))

/-- The pattern is evaluated from scratch, and the variables that are not shown are dropped before the join. -/
def project (vs : List Variable) (inner : Rows) : Rows := fun V =>
  Solution.join V ((inner {Solution.empty}).map (·.project vs))

/-- The aggregates that can be compiled. -/
def aggregates (k : Expression.Compiler) (as : List (Variable × Aggregate)) : List (Variable × ReadyAggregate) :=
  as.filterMap fun (v, a) => (a.ready k).toOption.map (v, ·)

/-- The solutions of the groups of some rows in a given order. -/
def groupList (vs : List Variable) (as : List (Variable × ReadyAggregate)) (rows : List Solution) : List Solution :=
  (Group.ofRows vs rows).filterMap fun g => (g.evaluate vs [] as 0).toOption

/-- The solutions of the groups of some rows, for an order that is not known. -/
noncomputable def group (k : Expression.Compiler) (vs : List Variable) (as : List (Variable × Aggregate)) : Rows :=
  fun V => ↑(groupList vs (aggregates k as) V.toList)

end Rows

mutual

/-- The rows of a pattern over those that it is handed. -/
noncomputable def Pattern.rows (L : LeafRows) (k : Expression.Compiler) : Pattern → ActiveGraph → Rows
  | .bgp ps, active => fun V =>
    (V.bind (L.bgp active (ps.map HiddenVariable.replace))).map
      (HiddenVariable.hide (HiddenVariable.ofPatterns ps))
  | .path x p y, active => fun V =>
    (V.bind (L.path active (PathPattern.mk x p y).hide)).map (HiddenVariable.hide (HiddenVariable.ofSlots [x, y]))
  | .join a b, active => fun V => b.rows L k active (a.rows L k active V)
  | .leftJoin a b none, active => .leftJoin (a.rows L k active) (b.rows L k active) id
  | .leftJoin a b (some e), active =>
    .leftJoin (a.rows L k active) (b.rows L k active) (.select k e (e.testRows L k active))
  | .filter e inner, active => fun V => Rows.filter k e (e.testRows L k active) (inner.rows L k active V)
  | .union a b, active => .union (a.rows L k active) (b.rows L k active)
  | .minus a b, active => .minus (a.rows L k active) (b.rows L k active)
  | .graph (.iri iri) inner, _ => inner.rows L k (.named iri)
  | .graph (.var _) _, _ => fun _ => 0
  | .extend inner v e, active => .extend k v e (e.testRows L k active) (inner.rows L k active)
  | .values vs rows, _ => .values vs rows
  | .orderBy inner _, active => inner.rows L k active
  | .project inner vs, active => .project vs (inner.rows L k active)
  | .distinct inner, active => fun V => (inner.rows L k active V).dedup
  | .reduced inner, active => fun V => (inner.rows L k active V).dedup
  | .slice .., _ => fun _ => 0
  | .group inner vs as, active => fun V => Rows.group k vs as (inner.rows L k active V)
  | .service .., _ => fun _ => 0

/-- The rows of the patterns whose existence an expression tests, from left to right. -/
noncomputable def Expression.testRows (L : LeafRows) (k : Expression.Compiler) :
    Expression → ActiveGraph → List Rows
  | .constant _, _ => []
  | .var _, _ => []
  | .or a b, active => a.testRows L k active ++ b.testRows L k active
  | .and a b, active => a.testRows L k active ++ b.testRows L k active
  | .not a, active => a.testRows L k active
  | .equal a b, active => a.testRows L k active ++ b.testRows L k active
  | .sameTerm a b, active => a.testRows L k active ++ b.testRows L k active
  | .compare _ a b, active => a.testRows L k active ++ b.testRows L k active
  | .member a es, active => a.testRows L k active ++ Expression.testRowsOfAll L k es active
  | .arithmetic _ a b, active => a.testRows L k active ++ b.testRows L k active
  | .sign _ a, active => a.testRows L k active
  | .hasSolution p, active => [p.rows L k active]
  | .isBound _, _ => []
  | .choose a b c, active => a.testRows L k active ++ b.testRows L k active ++ c.testRows L k active
  | .coalesce es, active => Expression.testRowsOfAll L k es active
  | .call _ es, active => Expression.testRowsOfAll L k es active

/-- The rows of the patterns whose existence some expressions test. -/
noncomputable def Expression.testRowsOfAll (L : LeafRows) (k : Expression.Compiler) :
    List Expression → ActiveGraph → List Rows
  | [], _ => []
  | e :: es, active => e.testRows L k active ++ Expression.testRowsOfAll L k es active

end

namespace Pattern

variable (L : LeafRows) (k : Expression.Compiler) (active : ActiveGraph)

/-- A basic graph pattern has the rows of its leaf, without the variables that stand for blank nodes. -/
theorem rows_bgp (ps : List TriplePattern) : (Pattern.bgp ps).rows L k active = fun V =>
    (V.bind (L.bgp active (ps.map HiddenVariable.replace))).map
      (HiddenVariable.hide (HiddenVariable.ofPatterns ps)) := rfl

/-- A table has its rows. -/
theorem rows_values (vs : List Variable) (table : List (List (Option Term))) :
    (Pattern.values vs table).rows L k active = .values vs table := rfl

/-- The rows of a join are those that its second part has for the rows of its first part. -/
theorem rows_join (a b : Pattern) :
    (Pattern.join a b).rows L k active = fun V => b.rows L k active (a.rows L k active V) := rfl

/-- The rows of a union are those of both parts. -/
theorem rows_union (a b : Pattern) :
    (Pattern.union a b).rows L k active = .union (a.rows L k active) (b.rows L k active) := rfl

/-- A projection shows some variables of its rows. -/
theorem rows_project (inner : Pattern) (vs : List Variable) :
    (Pattern.project inner vs).rows L k active = .project vs (inner.rows L k active) := rfl

end Pattern

end SparqlAlgebra

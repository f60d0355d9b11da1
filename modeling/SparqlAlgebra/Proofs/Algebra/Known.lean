import SparqlAlgebra.Algebra.Pattern
import SparqlAlgebra.Plan.Search
import SparqlAlgebra.Proofs.Aggregate.OrderFree
import SparqlAlgebra.Proofs.Algebra.Steady
import SparqlAlgebra.Proofs.Plan.Touches
import SparqlAlgebra.Proofs.Solution.BindsIn

/-!
# Patterns whose solutions do not depend on an order

A slice depends on the order of the solutions, and so do the graphs that the first row chooses, the aggregates that
add up, join or sample, and the values that are drawn. Services and searches depend on what lies outside the graphs.
The other patterns have the same bag of solutions whichever way they are evaluated.

A graph that a variable names is looked up for each row if the first row binds the variable, and otherwise all graphs
are gone through. Which rows come first does not matter if all of them bind the variable, or none; and whether they do
can be read off what the patterns before have bound. Then the solutions do not depend on an order, even where searches,
if they do not number their hits, and services of a given name take part.
-/

namespace SparqlAlgebra

/-! ## Without graphs and searches -/

mutual

/-- Whether the bag of the solutions of a pattern does not depend on an order. -/
def Pattern.isOrderFree : Pattern → Bool
  | .bgp ps => ps.all fun p => !SearchPlan.isSearchTriple p
  | .path .. => true
  | .join a b => a.isOrderFree && b.isOrderFree
  | .leftJoin a b none => a.isOrderFree && b.isOrderFree
  | .leftJoin a b (some e) => a.isOrderFree && b.isOrderFree && e.isSteady && e.testsAreOrderFree
  | .filter e inner => e.isSteady && e.testsAreOrderFree && inner.isOrderFree
  | .union a b => a.isOrderFree && b.isOrderFree
  | .minus a b => a.isOrderFree && b.isOrderFree
  | .graph (.iri _) inner => inner.isOrderFree
  | .graph (.var _) _ => false
  | .extend inner _ e => e.isSteady && e.testsAreOrderFree && inner.isOrderFree
  | .values .. => true
  | .orderBy inner keys => inner.isOrderFree && keys.all SortKey.isSteady
  | .project inner _ => inner.isOrderFree
  | .distinct inner => inner.isOrderFree
  | .reduced inner => inner.isOrderFree
  | .slice .. => false
  | .group inner _ as => inner.isOrderFree && as.all fun a => a.2.isOrderFree
  | .service .. => false

/-- Whether this holds of the patterns whose existence an expression tests. -/
def Expression.testsAreOrderFree : Expression → Bool
  | .constant _ => true
  | .var _ => true
  | .or a b => a.testsAreOrderFree && b.testsAreOrderFree
  | .and a b => a.testsAreOrderFree && b.testsAreOrderFree
  | .not a => a.testsAreOrderFree
  | .equal a b => a.testsAreOrderFree && b.testsAreOrderFree
  | .sameTerm a b => a.testsAreOrderFree && b.testsAreOrderFree
  | .compare _ a b => a.testsAreOrderFree && b.testsAreOrderFree
  | .member a es => a.testsAreOrderFree && Expression.allTestsAreOrderFree es
  | .arithmetic _ a b => a.testsAreOrderFree && b.testsAreOrderFree
  | .sign _ a => a.testsAreOrderFree
  | .hasSolution p => p.isOrderFree
  | .isBound _ => true
  | .choose a b c => a.testsAreOrderFree && b.testsAreOrderFree && c.testsAreOrderFree
  | .coalesce es => Expression.allTestsAreOrderFree es
  | .call _ es => Expression.allTestsAreOrderFree es

/-- Whether this holds of the patterns whose existence some expressions test. -/
def Expression.allTestsAreOrderFree : List Expression → Bool
  | [] => true
  | e :: es => e.testsAreOrderFree && Expression.allTestsAreOrderFree es

end

/-! ## What is known of the rows -/

open Solution

/-- What is known of all rows that are handed to a pattern. -/
structure Known where
  /-- The variables that every row binds. -/
  always : List Variable
  /-- The variables that a row may bind, apart from that of the enclosing graph. -/
  ever : List Variable
  /-- The variable of the enclosing graph. -/
  enclosing : Option Variable
  deriving DecidableEq

namespace Known

/-- This is known of the rows. -/
structure Holds (k : Known) (s : Solution) : Prop where
  /-- Every row binds the variables that are always bound. -/
  always : ∀ v ∈ k.always, s.binds v = true
  /-- No row binds more than the variables that may ever be, and that of the enclosing graph. -/
  ever : ∀ v, s.binds v = true → v ∈ k.ever ∨ k.enclosing = some v

/-- What is known of the row that binds nothing. -/
def nothing : Known := ⟨[], [], none⟩

/-- What is known of the empty row where a pattern is evaluated from scratch in the same graph. -/
def fresh (k : Known) : Known := ⟨[], [], k.enclosing⟩

/-- What is known of the rows that are handed to a pattern in the graph that they name. -/
def within (v : Variable) (k : Known) : Known := ⟨v :: k.always, k.enclosing.toList ++ k.ever, some v⟩

/-- Either all rows bind a variable or none does. -/
def settles (k : Known) (v : Variable) : Bool :=
  k.always.contains v || (!k.ever.contains v && k.enclosing != some v)

variable {k : Known} {s : Solution} {v : Variable}

/-- Nothing is known of the empty solution but that it binds nothing else. -/
theorem holds_empty : k.fresh.Holds .empty := ⟨nofun, fun v hv => by simp [binds] at hv⟩

/-- The empty solution fits knowledge of nothing. -/
theorem holds_nothing : nothing.Holds .empty := ⟨nofun, fun v hv => by simp [binds] at hv⟩

/-- Rows of which this is known agree on such a variable. -/
theorem Holds.binds_eq (h : k.Holds s) (hv : k.settles v = true) : s.binds v = k.always.contains v := by
  cases halways : k.always.contains v with
  | true => exact h.always v (by simpa using halways)
  | false =>
    rw [settles, halways, Bool.false_or, Bool.and_eq_true, Bool.not_eq_true', bne_iff_ne] at hv
    rw [Bool.eq_false_iff]
    intro hbinds
    exact (h.ever v hbinds).elim (by simpa using hv.1) hv.2

/-- Where fewer variables are certain and more are possible, more rows are meant. -/
theorem Holds.mono {j : Known} (h : k.Holds s) (halways : ∀ v ∈ j.always, v ∈ k.always)
    (hever : ∀ v, v ∈ k.ever ∨ k.enclosing = some v → v ∈ j.ever ∨ j.enclosing = some v) : j.Holds s :=
  ⟨fun v hv => h.always v (halways v hv), fun v hv => hever v (h.ever v hv)⟩

end Known

/-! ## What patterns add -/

namespace SearchPlan

/-- The patterns of a basic graph pattern that are joined, apart from its searches. -/
def joined (ps : List TriplePattern) : List TriplePattern :=
  match ofPatterns (ps.map HiddenVariable.replace) with
  | .ok plan => plan.patterns
  | .error _ => []

/-- Whether the searches of a basic graph pattern do not number their hits. -/
def isUnranked (ps : List TriplePattern) : Bool :=
  match ofPatterns (ps.map HiddenVariable.replace) with
  | .ok plan => plan.searches.all fun q => !q.query.isRanked
  | .error _ => true

end SearchPlan

/-- The variables that all solutions of a pattern bind, if all rows that it is handed bind some. -/
def Pattern.always : Pattern → List Variable → List Variable
  | .bgp ps, vs =>
    (vs ++ (SearchPlan.joined ps).flatMap (·.vars)).filter fun v => !(HiddenVariable.ofPatterns ps).contains v
  | .path x _ y, vs =>
    (vs ++ [x.var?, y.var?].reduceOption).filter fun v => !(HiddenVariable.ofSlots [x, y]).contains v
  | .join a b, vs => b.always (a.always vs)
  | .leftJoin a b _, vs => (a.always vs).filter (b.always (a.always vs)).contains
  | .union a b, vs => (a.always vs).filter (b.always vs).contains
  | .minus a _, vs => a.always vs
  | .graph (.var v) inner, vs => inner.always (v :: vs)
  | .values ws rows, vs => vs ++ ws.filter fun v => rows.all fun row => (Plan.rowSolution ws row).binds v
  | .project inner ws, vs => vs ++ (inner.always []).filter ws.contains
  | .group inner ws _, vs => (inner.always vs).filter ws.contains
  | .graph (.iri _) inner, vs | .filter _ inner, vs | .extend inner _ _, vs | .orderBy inner _, vs
  | .distinct inner, vs | .reduced inner, vs | .slice inner _ _, vs | .service _ inner _, vs => inner.always vs

/-- What is known of the solutions of a pattern. -/
def Pattern.after (p : Pattern) (k : Known) : Known := ⟨p.always k.always, k.ever ++ p.scopeOccurrences, k.enclosing⟩

namespace Pattern

variable {p q : Pattern} {k : Known} {s : Solution}

/-- What is known after a join is what is known after its second part. -/
theorem after_join (a b : Pattern) (k : Known) : (Pattern.join a b).after k = b.after (a.after k) := by
  simp [after, always, scopeOccurrences]

/-- What is known after a pattern is known after one that has more in scope and always binds less. -/
theorem after_mono (h : (p.after k).Holds s) (halways : ∀ v ∈ q.always k.always, v ∈ p.always k.always)
    (hscope : p.scopeOccurrences ⊆ q.scopeOccurrences) : (q.after k).Holds s :=
  h.mono halways fun _ hv => hv.imp_left fun hv =>
    List.mem_append.2 ((List.mem_append.1 hv).imp_right fun hv => hscope hv)

end Pattern

/-! ## Patterns with searches and services -/

/-- Whether an aggregate does not depend on an order, or cannot be compiled. A count may be too great, and fails as late
as the rows come. -/
def Aggregate.isOrderless (early : Bool) : Aggregate → Bool
  | .countRows _ => !early
  | .apply .count _ e => !early && e.isSteady
  | .apply .min _ e | .apply .max _ e => e.isSteady
  | .apply (.custom _) _ _ => true
  | .apply .. => false

mutual

/-- Whether the bag of the solutions of a pattern does not depend on an order, for rows of which this is known. Where
all graphs are gone through, the list of them is taken to be the same up to its order. If failures are to be early, what
fails does so when the plan is built; then services may be silent. -/
def Pattern.isOrderless (listed early : Bool) : Pattern → Known → Bool
  | .bgp ps, _ => SearchPlan.isUnranked ps
  | .path .., _ | .values .., _ => true
  | .join a b, k | .leftJoin a b none, k => a.isOrderless listed early k && b.isOrderless listed early (a.after k)
  | .leftJoin a b (some e), k =>
    a.isOrderless listed early k && b.isOrderless listed early (a.after k) &&
      (e.isSteady && (!early || e.tests.isEmpty) && e.testsAreOrderless listed early (b.after (a.after k)))
  | .filter e inner, k | .extend inner _ e, k =>
    e.isSteady && e.testsAreOrderless listed early (inner.after k) && inner.isOrderless listed early k
  | .union a b, k => a.isOrderless listed early k && b.isOrderless listed early k
  | .minus a b, k => a.isOrderless listed early k && b.isOrderless listed early k.fresh
  | .graph (.iri _) inner, k | .distinct inner, k | .reduced inner, k => inner.isOrderless listed early k
  | .graph (.var v) inner, k => listed && k.settles v && inner.isOrderless listed early (k.within v)
  | .orderBy inner keys, k => inner.isOrderless listed early k && keys.all SortKey.isSteady
  | .project inner _, k => inner.isOrderless listed early k.fresh
  | .group inner _ as, k => inner.isOrderless listed early k && as.all fun a => a.2.isOrderless early
  | .service (.iri _) inner silent, k => (!silent || early) && inner.isOrderless listed early k
  | .slice .., _ | .service (.var _) .., _ => false

/-- Whether this holds of the patterns whose existence an expression tests. -/
def Expression.testsAreOrderless (listed early : Bool) : Expression → Known → Bool
  | .constant _, _ | .var _, _ | .isBound _, _ => true
  | .or a b, k | .and a b, k | .equal a b, k | .sameTerm a b, k | .compare _ a b, k | .arithmetic _ a b, k =>
    a.testsAreOrderless listed early k && b.testsAreOrderless listed early k
  | .not a, k | .sign _ a, k => a.testsAreOrderless listed early k
  | .choose a b c, k =>
    a.testsAreOrderless listed early k && b.testsAreOrderless listed early k && c.testsAreOrderless listed early k
  | .member a es, k => a.testsAreOrderless listed early k && Expression.allTestsAreOrderless listed early es k
  | .coalesce es, k | .call _ es, k => Expression.allTestsAreOrderless listed early es k
  | .hasSolution p, k => p.isOrderless listed early k

/-- Whether this holds of the patterns whose existence some expressions test. -/
def Expression.allTestsAreOrderless (listed early : Bool) : List Expression → Known → Bool
  | [], _ => true
  | e :: es, k => e.testsAreOrderless listed early k && Expression.allTestsAreOrderless listed early es k

end

end SparqlAlgebra

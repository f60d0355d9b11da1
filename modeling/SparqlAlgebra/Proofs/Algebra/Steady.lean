import SparqlAlgebra.Proofs.Expression.Draws
import SparqlAlgebra.Proofs.Plan.Build

/-!
# Patterns that draw no values

Values are drawn by filters, by the conditions of optional joins, by extensions, by sort keys and by aggregates. A
pattern without volatile functions in any of these draws nothing, and neither do the patterns that its expressions
test.
-/

namespace SparqlAlgebra

namespace SortKey

/-- The expression that a key sorts by. -/
def expression : SortKey → Expression
  | .ascending e => e
  | .descending e => e

/-- Whether no key draws values. -/
def isSteady : SortKey → Bool
  | .ascending e => e.isSteady
  | .descending e => e.isSteady

/-- The expression of a key is as steady as the key. -/
theorem isSteady_expression (k : SortKey) : k.expression.isSteady = k.isSteady := by
  cases k <;> rfl

end SortKey

namespace Aggregate

/-- Whether an aggregate draws no values. -/
def isSteady : Aggregate → Bool
  | .countRows _ => true
  | .apply _ _ e => e.isSteady

variable {c : Expression.Compiler} {r : ReadyAggregate}

/-- An aggregate over an expression is compiled with the expression. -/
theorem exists_of_ready_apply {f : SetFunction} {distinct : Bool} {e : Expression}
    (hr : (Aggregate.apply f distinct e).ready c = .ok r) :
    ∃ x, e.ready c = .ok x ∧ r = .apply (f.start?.getD default) distinct x := by
  cases f with
  | custom name => cases hr
  | count | sum | avg | min | max | sample | groupConcat =>
    obtain ⟨x, hx, h⟩ := exists_of_bind_eq_ok hr
    exact ⟨x, hx, (Except.ok.inj h).symm⟩

/-- A steady aggregate draws no values. -/
theorem draws_eq_zero {a : Aggregate} (h : a.isSteady = true) (hr : a.ready c = .ok r) : r.draws = 0 := by
  cases a with
  | countRows distinct =>
    cases hr
    rfl
  | apply f distinct e =>
    obtain ⟨x, hx, rfl⟩ := exists_of_ready_apply hr
    exact (Expression.ready_steady h hx).1

end Aggregate

mutual

/-- Whether the evaluation of a pattern draws no values. -/
def Pattern.isSteady : Pattern → Bool
  | .bgp _ | .path .. | .values .. => true
  | .join a b | .union a b | .minus a b | .leftJoin a b none => a.isSteady && b.isSteady
  | .leftJoin a b (some e) => a.isSteady && b.isSteady && (e.isSteady && e.testsAreSteady)
  | .filter e inner | .extend inner _ e => e.isSteady && e.testsAreSteady && inner.isSteady
  | .graph _ inner | .project inner _ | .distinct inner | .reduced inner | .slice inner .. | .service _ inner _ =>
    inner.isSteady
  | .orderBy inner keys => inner.isSteady && keys.all SortKey.isSteady
  | .group inner _ as => inner.isSteady && as.all fun a => a.2.isSteady

/-- Whether this holds of the patterns whose existence an expression tests. -/
def Expression.testsAreSteady : Expression → Bool
  | .constant _ | .var _ | .isBound _ => true
  | .or a b | .and a b | .equal a b | .sameTerm a b | .compare _ a b | .arithmetic _ a b =>
    a.testsAreSteady && b.testsAreSteady
  | .not a | .sign _ a => a.testsAreSteady
  | .choose a b c => a.testsAreSteady && b.testsAreSteady && c.testsAreSteady
  | .member a es => a.testsAreSteady && Expression.allTestsAreSteady es
  | .coalesce es | .call _ es => Expression.allTestsAreSteady es
  | .hasSolution p => p.isSteady

/-- Whether this holds of the patterns whose existence some expressions test. -/
def Expression.allTestsAreSteady : List Expression → Bool
  | [] => true
  | e :: es => e.testsAreSteady && Expression.allTestsAreSteady es

end

end SparqlAlgebra

import SparqlAlgebra.Plan.Graph
import SparqlAlgebra.Plan.Group
import SparqlAlgebra.Plan.Join
import SparqlAlgebra.Plan.Triples

/-!
# The plan of a pattern

Each kind of pattern has its own way to make a plan from the plans of its parts. The parts of an expression
are the patterns whose existence it tests.
-/

namespace SparqlAlgebra

mutual

/-- The plan of a pattern. -/
def Pattern.plan : Pattern → Plan
  | .bgp ps => Plan.bgp ps
  | .path s p o => Plan.paths [⟨s, p, o⟩]
  | .join a b => Plan.join a.plan b.plan
  | .leftJoin a b none => Plan.leftJoin a.plan b.plan none
  | .leftJoin a b (some e) => Plan.leftJoin a.plan b.plan (some (e, e.tests))
  | .filter e inner => Plan.filter e e.tests inner.plan
  | .union a b => Plan.union a.plan b.plan
  | .minus a b => Plan.minus a.plan b.plan
  | .graph name inner => Plan.graph name inner.plan
  | .extend inner v e => Plan.extend v e e.tests inner.plan
  | .values vs rows => Plan.values vs rows
  | .orderBy inner keys => Plan.orderBy keys inner.plan
  | .project inner vs => Plan.project vs inner.plan
  | .distinct inner => Plan.distinct inner.plan
  | .reduced inner => Plan.distinct inner.plan
  | .slice inner start length => Plan.slice start length inner.plan
  | .group inner vs as => Plan.group vs as inner.plan
  | .service name inner silent => Plan.service name inner.plan silent

/-- The plans of the patterns whose existence an expression tests, from left to right. -/
def Expression.tests : Expression → List Plan
  | .constant _ => []
  | .var _ => []
  | .or a b => a.tests ++ b.tests
  | .and a b => a.tests ++ b.tests
  | .not a => a.tests
  | .equal a b => a.tests ++ b.tests
  | .sameTerm a b => a.tests ++ b.tests
  | .compare _ a b => a.tests ++ b.tests
  | .member a es => a.tests ++ Expression.testsOfAll es
  | .arithmetic _ a b => a.tests ++ b.tests
  | .sign _ a => a.tests
  | .hasSolution p => [p.plan]
  | .isBound _ => []
  | .choose a b c => a.tests ++ b.tests ++ c.tests
  | .coalesce es => Expression.testsOfAll es
  | .call _ es => Expression.testsOfAll es

/-- The plans of the patterns whose existence some expressions test. -/
def Expression.testsOfAll : List Expression → List Plan
  | [] => []
  | e :: es => e.tests ++ Expression.testsOfAll es

end

end SparqlAlgebra

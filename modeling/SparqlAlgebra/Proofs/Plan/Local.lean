import SparqlAlgebra.Proofs.Query.Similar

/-!
# Patterns without services

The only patterns whose evaluation creates graphs are those that ask a service. All others look things up and leave the
dataset as it is.
-/

namespace SparqlAlgebra

mutual

/-- No service is asked, also not where an expression tests for solutions. -/
def Pattern.isLocal : Pattern → Bool
  | .bgp _ | .path .. | .values .. => true
  | .join a b | .union a b | .minus a b | .leftJoin a b none => a.isLocal && b.isLocal
  | .leftJoin a b (some e) => a.isLocal && b.isLocal && e.isLocal
  | .filter e inner | .extend inner _ e => e.isLocal && inner.isLocal
  | .graph _ inner | .orderBy inner _ | .project inner _ | .distinct inner | .reduced inner | .slice inner .. |
    .group inner .. => inner.isLocal
  | .service .. => false

/-- No service is asked for the tests of an expression. -/
def Expression.isLocal : Expression → Bool
  | .constant _ | .var _ | .isBound _ => true
  | .or a b | .and a b | .equal a b | .sameTerm a b | .compare _ a b | .arithmetic _ a b => a.isLocal && b.isLocal
  | .not a | .sign _ a => a.isLocal
  | .choose a b c => a.isLocal && b.isLocal && c.isLocal
  | .member a es => a.isLocal && Expression.allLocal es
  | .coalesce es | .call _ es => Expression.allLocal es
  | .hasSolution p => p.isLocal

/-- Whether this holds of several expressions. -/
def Expression.allLocal : List Expression → Bool
  | [] => true
  | e :: es => e.isLocal && Expression.allLocal es

end

variable {d : Dataset}

mutual

/-- Nothing that such a pattern touches creates a graph. -/
theorem Pattern.createsNone_of_isLocal : (p : Pattern) → p.isLocal = true → (a : ActiveGraph) →
    ∀ x ∈ p.touches a, x.CreatesNone d
  | .bgp ps, _, a => by
    rw [Pattern.touches, List.forall_mem_map]
    exact fun _ _ => trivial
  | .path .., _, _ => nofun
  | .values .., _, _ => nofun
  | .join p q, h, a | .union p q, h, a | .minus p q, h, a | .leftJoin p q none, h, a => by
    rw [Pattern.isLocal, Bool.and_eq_true] at h
    rw [Pattern.touches, List.forall_mem_append]
    exact ⟨p.createsNone_of_isLocal h.1 a, q.createsNone_of_isLocal h.2 a⟩
  | .leftJoin p q (some e), h, a => by
    rw [Pattern.isLocal, Bool.and_eq_true, Bool.and_eq_true] at h
    rw [Pattern.touches, List.forall_mem_append, List.forall_mem_append]
    exact ⟨⟨p.createsNone_of_isLocal h.1.1 a, q.createsNone_of_isLocal h.1.2 a⟩, e.createsNone_of_isLocal h.2 a⟩
  | .filter e inner, h, a | .extend inner _ e, h, a => by
    rw [Pattern.isLocal, Bool.and_eq_true] at h
    rw [Pattern.touches, List.forall_mem_append]
    exact ⟨e.createsNone_of_isLocal h.1 a, inner.createsNone_of_isLocal h.2 a⟩
  | .graph (.iri iri) inner, h, a => by
    rw [Pattern.isLocal] at h
    rw [Pattern.touches]
    exact inner.createsNone_of_isLocal h (.named iri)
  | .graph (.var v) inner, h, a => by
    rw [Pattern.isLocal] at h
    rw [Pattern.touches]
    exact inner.createsNone_of_isLocal h (.bound v)
  | .orderBy inner _, h, a | .project inner _, h, a | .distinct inner, h, a | .reduced inner, h, a
  | .slice inner _ _, h, a | .group inner _ _, h, a => by
    rw [Pattern.isLocal] at h
    rw [Pattern.touches]
    exact inner.createsNone_of_isLocal h a

/-- The tests of a local expression create no graphs. -/
theorem Expression.createsNone_of_isLocal : (e : Expression) → e.isLocal = true → (a : ActiveGraph) →
    ∀ x ∈ e.touches a, x.CreatesNone d
  | .constant _, _, _ | .var _, _, _ | .isBound _, _, _ => nofun
  | .or x y, h, a | .and x y, h, a | .equal x y, h, a | .sameTerm x y, h, a | .compare _ x y, h, a
  | .arithmetic _ x y, h, a => by
    rw [Expression.isLocal, Bool.and_eq_true] at h
    rw [Expression.touches, List.forall_mem_append]
    exact ⟨x.createsNone_of_isLocal h.1 a, y.createsNone_of_isLocal h.2 a⟩
  | .not x, h, a | .sign _ x, h, a => by
    rw [Expression.isLocal] at h
    rw [Expression.touches]
    exact x.createsNone_of_isLocal h a
  | .choose x y z, h, a => by
    rw [Expression.isLocal, Bool.and_eq_true, Bool.and_eq_true] at h
    rw [Expression.touches, List.forall_mem_append, List.forall_mem_append]
    exact ⟨⟨x.createsNone_of_isLocal h.1.1 a, y.createsNone_of_isLocal h.1.2 a⟩, z.createsNone_of_isLocal h.2 a⟩
  | .member x es, h, a => by
    rw [Expression.isLocal, Bool.and_eq_true] at h
    rw [Expression.touches, List.forall_mem_append]
    exact ⟨x.createsNone_of_isLocal h.1 a, Expression.createsNone_of_allLocal es h.2 a⟩
  | .coalesce es, h, a | .call _ es, h, a => by
    rw [Expression.isLocal] at h
    rw [Expression.touches]
    exact Expression.createsNone_of_allLocal es h a
  | .hasSolution p, h, a => by
    rw [Expression.isLocal] at h
    rw [Expression.touches]
    exact p.createsNone_of_isLocal h a

/-- The tests of several local expressions create no graphs. -/
theorem Expression.createsNone_of_allLocal : (es : List Expression) → Expression.allLocal es = true →
    (a : ActiveGraph) → ∀ x ∈ Expression.touchesOfAll a es, x.CreatesNone d
  | [], _, _ => nofun
  | e :: es, h, a => by
    rw [Expression.allLocal, Bool.and_eq_true] at h
    rw [Expression.touchesOfAll, List.forall_mem_append]
    exact ⟨e.createsNone_of_isLocal h.1 a, Expression.createsNone_of_allLocal es h.2 a⟩

end

end SparqlAlgebra

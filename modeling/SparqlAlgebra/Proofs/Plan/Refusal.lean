import SparqlAlgebra.Proofs.Plan.Build
import SparqlAlgebra.Proofs.Query.Similar

/-!
# Plans that are refused

Whether the plan of a pattern is built can be read off the pattern, the functions that can be called and the graphs that
can be seen: the source does not matter, and no part is left out because there are no rows for it. So what cannot be
evaluated is refused before anything is evaluated. Only tests in the condition of an optional join are built as late as
the rows come.
-/

namespace SparqlAlgebra

/-! ## Patterns that can be built -/

mutual

/-- Whether the plan of a pattern is built, with the functions that can be called and the graphs that can be seen. -/
def Pattern.builds (x : Expression.Compiler) (sees : Iri → Bool) : Pattern → Bool
  | .bgp ps => (SearchPlan.ofPatterns (ps.map HiddenVariable.replace)).isOk
  | .path .. | .values .. => true
  | .join a b | .union a b | .minus a b | .leftJoin a b none => a.builds x sees && b.builds x sees
  | .leftJoin a b (some e) => a.builds x sees && (b.builds x sees && (e.ready x).isOk)
  | .filter e inner | .extend inner _ e => inner.builds x sees && ((e.ready x).isOk && e.testsBuild x sees)
  | .orderBy inner keys => inner.builds x sees && keys.all fun key => (key.expression.ready x).isOk
  | .group inner _ as => inner.builds x sees && as.all fun a => (a.2.ready x).isOk
  | .graph (.iri iri) inner => sees iri && inner.builds x sees
  | .graph (.var _) inner | .project inner _ | .distinct inner | .reduced inner | .slice inner .. |
    .service (.iri _) inner false => inner.builds x sees
  | .service (.iri _) _ true | .service (.var _) .. => true

/-- Whether the plans of the patterns whose existence an expression tests are built. -/
def Expression.testsBuild (x : Expression.Compiler) (sees : Iri → Bool) : Expression → Bool
  | .constant _ | .var _ | .isBound _ => true
  | .or a b | .and a b | .equal a b | .sameTerm a b | .compare _ a b | .arithmetic _ a b =>
    a.testsBuild x sees && b.testsBuild x sees
  | .not a | .sign _ a => a.testsBuild x sees
  | .choose a b c => a.testsBuild x sees && b.testsBuild x sees && c.testsBuild x sees
  | .member a es => a.testsBuild x sees && Expression.allTestsBuild x sees es
  | .coalesce es | .call _ es => Expression.allTestsBuild x sees es
  | .hasSolution p => p.builds x sees

/-- Whether the plans of the patterns whose existence some expressions test are built. -/
def Expression.allTestsBuild (x : Expression.Compiler) (sees : Iri → Bool) : List Expression → Bool
  | [] => true
  | e :: es => e.testsBuild x sees && Expression.allTestsBuild x sees es

end

variable {c : Scope} {d : Dataset} {st : Store} {source : Flow Solution}

/-! ## Constructions whose success is known -/

namespace Build

variable {α β : Type} {x : Build α} {f : α → Build β} {ok ok' : Bool}

/-- A construction leaves the store as it is, and it is known whether it succeeds. -/
structure Decided (ok : Bool) (st : Store) (x : Build α) : Prop where
  /-- Whether the construction succeeds is known. -/
  isOk : (x.run st).1.isOk = ok
  /-- The store is left as it is. -/
  store : (x.run st).2 = st

namespace Decided

/-- A value that is there is a success. -/
theorem pure (a : α) : Decided true st (Pure.pure a : Build α) := ⟨rfl, rfl⟩

/-- A failure is decided not to succeed. -/
theorem throw (e : QueryError) : Decided false st (MonadExcept.throw e : Build α) := ⟨rfl, rfl⟩

/-- Where success is decided, there is a result. -/
theorem exists_of_true (h : Decided true st x) : ∃ a, x.run st = (.ok a, st) := by
  rcases hx : x.run st with ⟨e | a, t⟩
  · have hok := h.isOk
    rw [hx] at hok
    cases hok
  · exact ⟨a, by rw [← h.store, hx]⟩

/-- Where failure is decided, there is an error. -/
theorem exists_of_false (h : Decided false st x) : ∃ e, x.run st = (.error e, st) := by
  rcases hx : x.run st with ⟨e | a, t⟩
  · exact ⟨e, by rw [← h.store, hx]⟩
  · have hok := h.isOk
    rw [hx] at hok
    cases hok

/-- The second part is run in the same store, unless the first one fails. -/
theorem bind (hx : Decided ok st x) (hf : ∀ a, Decided ok' st (f a)) : Decided (ok && ok') st (x >>= f) := by
  cases ok with
  | false =>
    obtain ⟨e, he⟩ := hx.exists_of_false
    exact ⟨by rw [run_bind, he]; rfl, by rw [run_bind, he]⟩
  | true =>
    obtain ⟨a, ha⟩ := hx.exists_of_true
    rw [Bool.true_and]
    exact ⟨by rw [run_bind_ok ha]; exact (hf a).isOk, by rw [run_bind_ok ha]; exact (hf a).store⟩

/-- What is done with the result decides nothing. -/
theorem map (g : α → β) (hx : Decided ok st x) : Decided ok st (x >>= fun a => Pure.pure (g a)) :=
  Bool.and_true ok ▸ hx.bind fun a => .pure (g a)

/-- Mapping the result does not hide what has been decided. -/
theorem of_map (g : α → β) (h : Decided ok st (x >>= fun a => Pure.pure (g a))) : Decided ok st x := by
  obtain ⟨hok, hstore⟩ := h
  rw [run_bind] at hok hstore
  rcases hx : x.run st with ⟨e | a, t⟩
  · rw [hx] at hok hstore
    exact ⟨by rw [hx]; exact hok, by rw [hx]; exact hstore⟩
  · rw [hx] at hok hstore
    exact ⟨by rw [hx]; exact hok, by rw [hx]; exact hstore⟩

/-- The store is read first. -/
theorem read {f : Store → Build β} (h : Decided ok st (f st)) : Decided ok st (get >>= f) :=
  ⟨by rw [run_bind_ok (run_get st)]; exact h.isOk, by rw [run_bind_ok (run_get st)]; exact h.store⟩

/-- Constructions for each item succeed if all of them do. -/
theorem mapM {as : List α} (ok : α → Bool) (h : ∀ a ∈ as, Decided (ok a) st (f a)) :
    Decided (as.all ok) st (as.mapM f) := by
  induction as with
  | nil => exact .pure []
  | cons a as ih =>
    rw [List.mapM_cons]
    have hrest := ih fun x hx => h x (List.mem_cons_of_mem a hx)
    exact (h a List.mem_cons_self).bind fun b => hrest.map _

/-- Checks of two lists succeed if those of each list do. -/
theorem forM_append {ps qs : List α} {f : α → Build PUnit} (hps : Decided ok st (ps.forM f))
    (hqs : Decided ok' st (qs.forM f)) : Decided (ok && ok') st ((ps ++ qs).forM f) := by
  rw [List.forM_eq_forM, List.forM_append]
  exact hps.bind fun _ => hqs

end Decided

end Build

/-! ## Plans -/

/-- The active graph is there, if it does not depend on the solution. -/
def Scope.Resolves (c : Scope) (d : Dataset) : Prop := ∀ e, c.activeGraph? d ≠ .error e

/-- A graph that the rows name is looked up only for them. -/
theorem Scope.resolves_bound (c : Scope) (v : Variable) (d : Dataset) : (c.withActive (.bound v)).Resolves d := nofun

/-- A graph of a given name is resolved if it is there. -/
theorem Scope.resolves_named {iri : Iri} (c : Scope) (h : d.hasNamed iri = true) :
    (c.withActive (.named iri)).Resolves d := by
  intro e he
  unfold activeGraph? at he
  simp [withActive, h] at he

namespace Plan

open Build

variable {a b p : Plan} {tests : List Plan} {e : Expression} {ok ok' : Bool}

/-- Looking up an active graph that is resolved succeeds. -/
theorem decided_onActiveGraph (hc : c.Resolves st.dataset) {evaluate : Flow Solution → GraphRef → Flow Solution} :
    Decided true st (c.onActiveGraph source evaluate) := by
  refine .read ?_
  split
  · rename_i e he
    exact absurd he (hc e)
  · exact .pure _
  · exact .pure _
  · rename_i hnone hbound
    unfold Scope.activeGraph? at hnone
    split at hnone
    · cases hnone
    · split at hnone <;> cases hnone
    · cases hnone
    · exact absurd ‹_› (hbound _)

/-- Compiling an expression succeeds if it is ready. -/
theorem decided_compile : Decided (e.ready c.compiler).isOk st (compile c e) := by
  unfold compile
  cases e.ready c.compiler with
  | ok r => exact .pure r
  | error x => exact .throw x

/-- Trying to build a plan succeeds if it can be built. -/
theorem decided_validate (hp : ∀ source, Decided ok st (p c source)) : Decided ok st (validate p c) := (hp .done).map _

/-- The tests of an expression are built before any of them is run. -/
theorem decided_testAll (h : Decided ok st (tests.forM fun p => validate p c)) :
    Decided ok st (testAll c tests source) := by
  unfold testAll
  split
  · rename_i hn
    obtain rfl := List.isEmpty_iff.1 hn
    exact h.map fun _ => _
  · exact h.map fun _ => _

/-- A filter by whether something exists can be built if the pattern can. -/
theorem decided_existsFilter {negated : Bool} (h : Decided ok st ([p].forM fun p => validate p c)) :
    Decided ok st (existsFilter c p negated source) :=
  (Decided.of_map (fun _ => PUnit.unit) h).map _

/-- A test for solutions can always be compiled. -/
theorem isOk_ready_hasSolution (x : Expression.Compiler) (q : Pattern) :
    ((Expression.hasSolution q).ready x).isOk = true := by
  rw [Expression.ready, Expression.compile]
  rfl

/-- A negated test for solutions can always be compiled. -/
theorem isOk_ready_not_hasSolution (x : Expression.Compiler) (q : Pattern) :
    ((Expression.not (.hasSolution q)).ready x).isOk = true := by
  rw [Expression.ready, Expression.compile, Expression.compile]
  rfl

/-- A test that stands alone is not compiled, but it could be. -/
theorem decided_filter (hp : ∀ source, Decided ok st (p c source))
    (h : Decided ok' st (tests.forM fun p => validate p c)) :
    Decided (ok && ((e.ready c.compiler).isOk && ok')) st (filter e tests p c source) := by
  refine (hp source).bind fun stage => ?_
  split
  · rw [isOk_ready_hasSolution]
    exact decided_existsFilter h
  · rw [isOk_ready_not_hasSolution]
    exact decided_existsFilter h
  · exact decided_compile.bind fun r => (decided_testAll h).map _

/-- An extension can be built if its pattern, its expression and the tests of this can be. -/
theorem decided_extend (v : Variable) (hp : ∀ source, Decided ok st (p c source))
    (h : Decided ok' st (tests.forM fun p => validate p c)) :
    Decided (ok && ((e.ready c.compiler).isOk && ok')) st (extend v e tests p c source) :=
  (hp source).bind fun _ => decided_compile.bind fun _ => (decided_testAll h).map _

/-- An optional part without a condition can be built if both parts can. -/
theorem decided_leftJoin_none (ha : ∀ source, Decided ok st (a c source)) (hb : ∀ source, Decided ok' st (b c source)) :
    Decided (ok && ok') st (leftJoin a b none c source) :=
  (ha source).bind fun _ => Bool.and_true ok' ▸ (decided_validate hb).bind fun _ => .map _ (.pure none)

/-- The condition of an optional part has to be compiled, but its tests are not tried. -/
theorem decided_leftJoin_some (ha : ∀ source, Decided ok st (a c source)) (hb : ∀ source, Decided ok' st (b c source)) :
    Decided (ok && (ok' && (e.ready c.compiler).isOk)) st (leftJoin a b (some (e, tests)) c source) :=
  (ha source).bind fun _ => (decided_validate hb).bind fun _ => .map _ (.map _ (.map _ decided_compile))

/-- A union can be built if both parts can. -/
theorem decided_union (ha : ∀ source, Decided ok st (a c source)) (hb : ∀ source, Decided ok' st (b c source)) :
    Decided (ok && ok') st (union a b c source) :=
  (decided_validate ha).bind fun _ => (decided_validate hb).map _

/-- An order can be built if its pattern and its keys can. -/
theorem decided_orderBy (keys : List SortKey) (hp : ∀ source, Decided ok st (p c source)) :
    Decided (ok && keys.all fun key => (key.expression.ready c.compiler).isOk) st (orderBy keys p c source) := by
  refine (hp source).bind fun _ => .map _ (.mapM _ fun key _ => ?_)
  cases key with
  | ascending e => exact .map _ decided_compile
  | descending e => exact .map _ decided_compile

/-- A grouping can be built if its pattern and its aggregates can. -/
theorem decided_group (vs : List Variable) (as : List (Variable × Aggregate))
    (hp : ∀ source, Decided ok st (p c source)) :
    Decided (ok && as.all fun a => (a.2.ready c.compiler).isOk) st (group vs as p c source) := by
  refine (hp source).bind fun stage => ?_
  rw [applyGroup, bindKeys_vars, ← Bool.and_true (as.all _)]
  refine Decided.bind (.mapM _ fun a _ => ?_) fun rs => ?_
  · obtain ⟨v, a⟩ := a
    dsimp only
    cases a.ready c.compiler with
    | ok r => exact .pure _
    | error e => exact .throw e
  · simp only [pure_bind]
    split
    · exact .pure _
    · exact .pure _

/-- A graph of a given name can be built if it can be seen and its pattern can be built there. -/
theorem decided_graph {iri : Iri} (hp : c.canSee st.dataset iri = true →
      ∀ source, Decided ok st (p (c.withActive (.named iri)) source)) :
    Decided (c.canSee st.dataset iri && ok) st (graph (.iri iri) p c source) := by
  refine .read ?_
  cases hsee : c.canSee st.dataset iri with
  | false => exact .throw _
  | true => exact hp hsee source

/-- A service whose graph is there can be built if its pattern can be. -/
theorem decided_endpoint {iri : Iri} (source : Flow Solution) (h : st.dataset.hasNamed iri = true)
    (hp : ∀ source, Decided ok st (p (c.withActive (.named iri)) source)) :
    Decided ok st (endpoint c iri p source) := by
  refine .read ?_
  rw [Dataset.create_of_hasNamed h]
  exact hp source

/-- A service whose graph is there can be built if its pattern can be or if it is silent. -/
theorem decided_service {iri : Iri} (source : Flow Solution) (h : st.dataset.hasNamed iri = true) (silent : Bool)
    (hp : ∀ source, Decided ok st (p (c.withActive (.named iri)) source)) :
    Decided (ok || silent) st (service (.iri iri) p silent c source) := by
  cases silent with
  | false =>
    rw [Bool.or_false]
    exact decided_endpoint source h hp
  | true =>
    rw [Bool.or_true]
    have hstage := decided_endpoint source h hp
    refine .read ?_
    cases ok with
    | false =>
      obtain ⟨e, he⟩ := hstage.exists_of_false
      rw [he]
      exact ⟨rfl, rfl⟩
    | true =>
      obtain ⟨stage, hrun⟩ := hstage.exists_of_true
      rw [hrun]
      exact ⟨rfl, rfl⟩

end Plan

/-! ## The plans of patterns -/

/-- A silent service is always built. -/
theorem Pattern.builds_service (x : Expression.Compiler) (sees : Iri → Bool) (iri : Iri) (inner : Pattern)
    (silent : Bool) : (Pattern.service (.iri iri) inner silent).builds x sees = (inner.builds x sees || silent) := by
  cases silent with
  | false => rw [Pattern.builds, Bool.or_false]
  | true => rw [Pattern.builds, Bool.or_true]

mutual

/-- Where no graph is created, the plan of a pattern is built over every source, or over none. -/
theorem Pattern.decided_plan : (p : Pattern) → (c : Scope) → (a : ActiveGraph) →
    (∀ x ∈ p.touches a, x.CreatesNone st.dataset) → c.Resolves st.dataset → ∀ source,
    Build.Decided (p.builds c.compiler (c.canSee st.dataset)) st (p.plan c source)
  | .bgp ps, c, _, _, hc, source => by
    rw [Pattern.builds, Pattern.plan, Plan.bgp]
    cases SearchPlan.ofPatterns (ps.map HiddenVariable.replace) with
    | error e => exact .throw e
    | ok plan => exact .map _ (Plan.decided_onActiveGraph hc)
  | .path x p y, c, _, _, hc, source => by
    rw [Pattern.builds, Pattern.plan]
    exact .map _ (Plan.decided_onActiveGraph hc)
  | .join p q, c, a, h, hc, source => by
    rw [Pattern.touches, List.forall_mem_append] at h
    rw [Pattern.builds, Pattern.plan]
    exact (p.decided_plan c a h.1 hc source).bind (q.decided_plan c a h.2 hc)
  | .leftJoin p q none, c, a, h, hc, source => by
    rw [Pattern.touches, List.forall_mem_append] at h
    rw [Pattern.builds, Pattern.plan]
    exact Plan.decided_leftJoin_none (p.decided_plan c a h.1 hc) (q.decided_plan c a h.2 hc)
  | .leftJoin p q (some e), c, a, h, hc, source => by
    rw [Pattern.touches, List.forall_mem_append, List.forall_mem_append] at h
    rw [Pattern.builds, Pattern.plan]
    exact Plan.decided_leftJoin_some (p.decided_plan c a h.1.1 hc) (q.decided_plan c a h.1.2 hc)
  | .filter e inner, c, a, h, hc, source => by
    rw [Pattern.touches, List.forall_mem_append] at h
    rw [Pattern.builds, Pattern.plan]
    exact Plan.decided_filter (inner.decided_plan c a h.2 hc) (e.decided_tests c a h.1 hc)
  | .union p q, c, a, h, hc, source => by
    rw [Pattern.touches, List.forall_mem_append] at h
    rw [Pattern.builds, Pattern.plan]
    exact Plan.decided_union (p.decided_plan c a h.1 hc) (q.decided_plan c a h.2 hc)
  | .minus p q, c, a, h, hc, source => by
    rw [Pattern.touches, List.forall_mem_append] at h
    rw [Pattern.builds, Pattern.plan]
    exact (p.decided_plan c a h.1 hc source).bind fun _ => .map _ (q.decided_plan c a h.2 hc _)
  | .graph (.iri iri) inner, c, a, h, hc, source => by
    rw [Pattern.touches] at h
    rw [Pattern.builds, Pattern.plan]
    exact Plan.decided_graph fun hsee => inner.decided_plan (c.withActive (.named iri)) _ h
      (c.resolves_named (Bool.and_eq_true_iff.1 hsee).2)
  | .graph (.var v) inner, c, a, h, hc, source => by
    rw [Pattern.touches] at h
    rw [Pattern.builds, Pattern.plan]
    exact .map _ (Plan.decided_validate (inner.decided_plan (c.withActive (.bound v)) _ h (c.resolves_bound v _)))
  | .extend inner v e, c, a, h, hc, source => by
    rw [Pattern.touches, List.forall_mem_append] at h
    rw [Pattern.builds, Pattern.plan]
    exact Plan.decided_extend v (inner.decided_plan c a h.2 hc) (e.decided_tests c a h.1 hc)
  | .values vs rows, c, _, _, _, source => by
    rw [Pattern.builds, Pattern.plan]
    exact .pure _
  | .orderBy inner keys, c, a, h, hc, source => by
    rw [Pattern.touches] at h
    rw [Pattern.builds, Pattern.plan]
    exact Plan.decided_orderBy keys (inner.decided_plan c a h hc)
  | .project inner vs, c, a, h, hc, source => by
    rw [Pattern.touches] at h
    rw [Pattern.builds, Pattern.plan]
    exact .map _ (inner.decided_plan c a h hc _)
  | .distinct inner, c, a, h, hc, source | .reduced inner, c, a, h, hc, source
  | .slice inner _ _, c, a, h, hc, source => by
    rw [Pattern.touches] at h
    rw [Pattern.builds, Pattern.plan]
    exact .map _ (inner.decided_plan c a h hc _)
  | .group inner vs as, c, a, h, hc, source => by
    rw [Pattern.touches] at h
    rw [Pattern.builds, Pattern.plan]
    exact Plan.decided_group vs as (inner.decided_plan c a h hc)
  | .service (.iri iri) inner silent, c, a, h, hc, source => by
    rw [Pattern.touches, List.forall_mem_cons] at h
    rw [Pattern.plan, Pattern.builds_service]
    exact Plan.decided_service source h.1 silent
      (inner.decided_plan (c.withActive (.named iri)) _ h.2 (c.resolves_named h.1))
  | .service (.var v) inner silent, c, a, _, _, source => by
    rw [Pattern.builds, Pattern.plan]
    exact .pure _

/-- The same holds of the plans of the patterns whose existence an expression tests. -/
theorem Expression.decided_tests : (e : Expression) → (c : Scope) → (a : ActiveGraph) →
    (∀ x ∈ e.touches a, x.CreatesNone st.dataset) → c.Resolves st.dataset →
    Build.Decided (e.testsBuild c.compiler (c.canSee st.dataset)) st (e.tests.forM fun p => Plan.validate p c)
  | .constant _, _, _, _, _ | .var _, _, _, _, _ | .isBound _, _, _, _, _ => by
    rw [Expression.testsBuild, Expression.tests]
    exact .pure _
  | .or x y, c, a, h, hc | .and x y, c, a, h, hc | .equal x y, c, a, h, hc | .sameTerm x y, c, a, h, hc
  | .compare _ x y, c, a, h, hc | .arithmetic _ x y, c, a, h, hc => by
    rw [Expression.touches, List.forall_mem_append] at h
    rw [Expression.testsBuild, Expression.tests]
    exact (x.decided_tests c a h.1 hc).forM_append (y.decided_tests c a h.2 hc)
  | .not x, c, a, h, hc | .sign _ x, c, a, h, hc => by
    rw [Expression.touches] at h
    rw [Expression.testsBuild, Expression.tests]
    exact x.decided_tests c a h hc
  | .choose x y z, c, a, h, hc => by
    rw [Expression.touches, List.forall_mem_append, List.forall_mem_append] at h
    rw [Expression.testsBuild, Expression.tests]
    exact ((x.decided_tests c a h.1.1 hc).forM_append (y.decided_tests c a h.1.2 hc)).forM_append
      (z.decided_tests c a h.2 hc)
  | .member x ys, c, a, h, hc => by
    rw [Expression.touches, List.forall_mem_append] at h
    rw [Expression.testsBuild, Expression.tests]
    exact (x.decided_tests c a h.1 hc).forM_append (Expression.decided_allTests ys c a h.2 hc)
  | .coalesce xs, c, a, h, hc | .call _ xs, c, a, h, hc => by
    rw [Expression.touches] at h
    rw [Expression.testsBuild, Expression.tests]
    exact Expression.decided_allTests xs c a h hc
  | .hasSolution p, c, a, h, hc => by
    rw [Expression.touches] at h
    rw [Expression.testsBuild, Expression.tests]
    exact .map _ (Plan.decided_validate (p.decided_plan c a h hc))

/-- The plans of the patterns whose existence several expressions test decide what those of each one do. -/
theorem Expression.decided_allTests : (es : List Expression) → (c : Scope) → (a : ActiveGraph) →
    (∀ x ∈ Expression.touchesOfAll a es, x.CreatesNone st.dataset) → c.Resolves st.dataset →
    Build.Decided (Expression.allTestsBuild c.compiler (c.canSee st.dataset) es) st
      ((Expression.testsOfAll es).forM fun p => Plan.validate p c)
  | [], _, _, _, _ => by
    rw [Expression.allTestsBuild, Expression.testsOfAll]
    exact .pure _
  | e :: es, c, a, h, hc => by
    rw [Expression.touchesOfAll, List.forall_mem_append] at h
    rw [Expression.allTestsBuild, Expression.testsOfAll]
    exact (e.decided_tests c a h.1 hc).forM_append (Expression.decided_allTests es c a h.2 hc)

end

end SparqlAlgebra

import SparqlAlgebra.Proofs.Plan.Only
import SparqlAlgebra.Proofs.Plan.Rows
import SparqlAlgebra.Proofs.Stage.RowWise

/-!
# Plans that treat every row on their own

A construction works row by row if, in every store with a property, it fails or makes of a source that amounts to some
rows a stage that amounts to the union of the bags that it has for each of them. What is evaluated for each row, or from
scratch, need not work row by row itself: it is enough that its items do not depend on the store. One lemma for each
way to make a plan of others.
-/

namespace SparqlAlgebra

open Solution Stage

variable {P : Store → Prop} {c : Scope} {d : Dataset}

/-- An invariant that tells the dataset tells it of two stores at once. -/
theorem Stage.Both.dataset_eq (hd : ∀ s, P s → s.dataset = d) (s t : Store) (h : Both P s t) : s.dataset = t.dataset :=
  (hd s h.1).trans (hd t h.2).symm

namespace Build

variable {α β γ : Type}

/-- The construction has a bag for each row, and it makes of what amounts to some rows what amounts to the union of
their bags, unless it fails. -/
def RowWise (P : Store → Prop) (b : Flow α → Build (Flow β)) : Prop :=
  ∃ F : α → Multiset β, ∀ source V, AmountsTo P source V →
    Build.Only P (fun stage => AmountsTo P stage (V.bind F)) (b source)

/-- A construction that does not depend on the store fails everywhere, or it gives everywhere what cannot be told apart
from one and the same result. -/
theorem Similar.exists_only {x : Build α} {Q : α → α → Prop} (h : Build.Similar (Both P) Q x x) :
    Build.Only P (fun _ => False) x ∨ ∃ b, Build.Only P (fun a => Q a b) x := by
  by_cases hok : ∃ s b t, P s ∧ x.run s = (.ok b, t)
  · obtain ⟨s, b, t, hs, hb⟩ := hok
    refine .inr ⟨b, fun u hu => ?_⟩
    have hrun := h u s ⟨hu, hs⟩
    rw [hb] at hrun
    rcases hx : x.run u with ⟨e | a, v⟩
    · rw [hx] at hrun
      cases hrun
    · rw [hx] at hrun
      cases hrun with
      | ok hq hR => exact ⟨hR.1, hq⟩
  · refine .inl fun u hu => ?_
    have hrun := h u u ⟨hu, hu⟩
    rcases hx : x.run u with ⟨e | a, v⟩
    · rw [hx] at hrun
      exact ⟨hrun.snd.1, trivial⟩
    · exact absurd ⟨u, a, v, hu, hx⟩ hok

namespace RowWise

/-- A stage that works row by row needs no construction. -/
theorem pure {f : Flow α → Flow β} (hf : Stage.RowWise P f) : RowWise P (fun source => Pure.pure (f source)) := by
  obtain ⟨F, hF⟩ := hf
  exact ⟨F, fun source V h => .pure (hF source V h)⟩

/-- A construction that fails works row by row. -/
theorem throw (e : QueryError) : RowWise P (fun _ : Flow α => (MonadExcept.throw e : Build (Flow β))) :=
  ⟨fun _ => 0, fun _ _ _ => .throw e⟩

/-- Two constructions work row by row if each does. -/
theorem bind {b : Flow α → Build (Flow β)} {k : Flow β → Build (Flow γ)} (hb : RowWise P b) (hk : RowWise P k) :
    RowWise P (fun source => b source >>= k) := by
  obtain ⟨F, hF⟩ := hb
  obtain ⟨K, hK⟩ := hk
  refine ⟨fun x => (F x).bind K, fun source V h => (hF source V h).bind fun stage hstage => ?_⟩
  rw [← Multiset.bind_assoc]
  exact hK stage _ hstage

/-- What looks at nothing in the store that differs. -/
theorem get {b : Store → Flow α → Build (Flow β)} {b' : Flow α → Build (Flow β)} (hb : ∀ st, P st → b st = b')
    (h : RowWise P b') : RowWise P (fun source => MonadState.get >>= fun st => b st source) := by
  obtain ⟨F, hF⟩ := h
  refine ⟨F, fun source V h => Only.get.bind fun st hst => ?_⟩
  rw [hb st hst]
  exact hF source V h

/-- What goes on after something whose result does not depend on the store. -/
theorem after {x : Build γ} {Q : γ → Prop} {b : γ → Flow α → Build (Flow β)}
    (hx : Build.Similar (Both P) (fun a a' => a = a' ∧ Q a) x x) (hb : ∀ a, Q a → RowWise P (b a)) :
    RowWise P (fun source => x >>= fun a => b a source) := by
  rcases hx.exists_only with hnone | ⟨a, ha⟩
  · exact ⟨fun _ => 0, fun source V h => hnone.bind fun _ hf => hf.elim⟩
  · by_cases hQ : Q a
    · obtain ⟨F, hF⟩ := hb a hQ
      refine ⟨F, fun source V h => ha.bind fun a' ha' => ?_⟩
      obtain ⟨rfl, -⟩ := ha'
      exact hF source V h
    · refine ⟨fun _ => 0, fun source V h => ha.bind fun a' ha' => ?_⟩
      obtain ⟨rfl, hQ'⟩ := ha'
      exact absurd hQ' hQ

/-- What goes on after a check. -/
theorem skip {x : Build Unit} {Q : Unit → Unit → Prop} {b : Flow α → Build (Flow β)}
    (hx : Build.Similar (Both P) Q x x) (hb : RowWise P b) : RowWise P (fun source => x >>= fun _ => b source) := by
  obtain ⟨F, hF⟩ := hb
  refine ⟨F, fun source V h => ?_⟩
  rcases hx.exists_only with hnone | ⟨_, hsome⟩
  · exact hnone.bind fun _ hf => hf.elim
  · exact hsome.bind fun _ _ => hF source V h

end RowWise

end Build

namespace Plan

open Build

variable {p q : Plan} {tests : List Plan} {e : Expression}

/-- What a plan that does not depend on the store makes of some rows amounts to one bag. -/
theorem exists_table (hp : Plan.Similar (Both P) c p) (rows : List Solution) :
    ∃ W, Build.Only P (fun stage => AmountsTo P stage W) (p c (.ofList rows)) := by
  rcases (hp _ _ (.ofList rows)).exists_only with hnone | ⟨b, hb⟩
  · exact ⟨0, hnone.mono nofun⟩
  · obtain ⟨W, hW⟩ := exists_amountsTo P b
    exact ⟨W, hb.mono hW⟩

/-! ## Triples and paths -/

/-- Operators one after the other work row by row if each does. -/
theorem rowWise_foldl {ι : Type} {ops : ι → Flow Solution → Flow Solution} {is : List ι}
    {f : Flow Solution → Flow Solution} (hops : ∀ i ∈ is, Stage.RowWise P (ops i)) (hf : Stage.RowWise P f) :
    Stage.RowWise P (fun source => is.foldl (fun stage i => ops i stage) (f source)) := by
  induction is generalizing f with
  | nil => exact hf
  | cons i is ih =>
    obtain ⟨hi, his⟩ := List.forall_mem_cons.1 hops
    exact ih his (hf.comp hi)

/-- Hiding variables works row by row. -/
theorem rowWise_strip (g : Engine) (vs : List Variable) : Stage.RowWise P (HiddenVariable.strip g vs) := by
  unfold HiddenVariable.strip
  split
  · exact .id
  · exact g.rowWise_map _

section Dataset

variable (hd : ∀ s, P s → s.dataset = d)
include hd

/-- A path works row by row. -/
theorem rowWise_path (g : Engine) (r : GraphRef) (p : PathPattern) : Stage.RowWise P (p.run g r) :=
  g.rowWise_mergeMap (p.similar_found (Both.dataset_eq hd) g r)

/-- A search works row by row, even if it ranks its hits. -/
theorem rowWise_search (g : Engine) (r : GraphRef) (q : BoundSearch) : Stage.RowWise P (q.run g r) :=
  g.rowWise_mergeMap fun x =>
    q.similar_found g (fun s t hst => .of_eq r (Both.dataset_eq hd s t hst)) (q.patternFor x) x

/-- A plan of searches works row by row where its look-ups are answered. -/
theorem rowWise_run {k : Settings} {r : GraphRef} {plan : SearchPlan} (hb : k.hints.batchSize < 2 ^ 64)
    (ha : plan.patterns.isEmpty = false → Join.Answered P k d r plan.patterns) :
    Stage.RowWise P (fun source => plan.run k source r) := by
  refine rowWise_foldl (fun q _ => rowWise_search hd k.engine r q) ?_
  cases hempty : plan.patterns.isEmpty with
  | true => exact .id
  | false =>
    refine ⟨fun s => (solutions (r.tripleSet d) plan.patterns).filterMap s.merge?, fun source V h => ?_⟩
    have hsame : ∀ s t : Store, s = t → r.SameIn s.dataset t.dataset :=
      fun _ _ hst => .of_eq r (congrArg Store.dataset hst)
    exact h.lift (f := Join.bound k r plan.patterns) (fun _ _ hab => Join.similar_bound hsame (.refl _) hab)
      fun _ hwithin => Join.within_bound (ha hempty) hb hwithin

/-- Against the active graph each row is evaluated on its own if it is so against each of the graphs that it may stand
for. -/
theorem rowWise_onActiveGraph {evaluate : Flow Solution → GraphRef → Flow Solution}
    (he : ∀ r, c.Shows d r c.active → Stage.RowWise P (fun source => evaluate source r))
    (hs : ∀ r, c.Shows d r c.active → ∀ f g, Stage.Similar (Both P) f g →
      Stage.Similar (Both P) (evaluate f r) (evaluate g r)) :
    Build.RowWise P (fun source => c.onActiveGraph source evaluate) := by
  obtain ⟨settings, compiler, active, visible⟩ := c
  cases active with
  | default => exact .get (fun _ _ => rfl) (.pure (he _ rfl))
  | named iri =>
    by_cases hn : d.hasNamed iri = true
    · refine .get (fun st hst => ?_) (.pure (he _ ⟨hn, rfl⟩))
      have hactive : (Scope.mk settings compiler (.named iri) visible).activeGraph? st.dataset =
          .ok (some (.single (.named iri))) := by
        rw [hd st hst]
        exact if_pos hn
      rw [hactive]
    · refine .get (fun st hst => ?_) (.throw (.graphMissing iri))
      have hactive : (Scope.mk settings compiler (.named iri) visible).activeGraph? st.dataset =
          .error (.graphMissing iri) := by
        rw [hd st hst]
        exact if_neg hn
      rw [hactive]
  | union iris =>
    refine .get (fun st hst => ?_) (.pure (he _ rfl))
    rw [hd st hst]
    rfl
  | bound v =>
    refine .get (fun _ _ => rfl) (.pure (Engine.rowWise_mergeMap _ (Scope.similar_onBoundGraph (Both.dataset_eq hd) v ?_)))
    exact fun s t r hst hr => hs r (hd s hst.1 ▸ hr)

/-- A basic graph pattern works row by row where its look-ups are answered. -/
theorem rowWise_bgp {ps : List TriplePattern} (hb : c.settings.hints.batchSize < 2 ^ 64)
    (ha : ∀ qs ∈ lookedUp ps, ∀ r, c.Shows d r c.active → Join.Answered P c.settings d r qs) :
    Build.RowWise P (bgp ps c) := by
  unfold lookedUp at ha
  unfold bgp
  cases hplan : SearchPlan.ofPatterns (ps.map HiddenVariable.replace) with
  | error e => exact .throw e
  | ok plan =>
    rw [hplan] at ha
    have hanswered : ∀ r, c.Shows d r c.active → plan.patterns.isEmpty = false →
        Join.Answered P c.settings d r plan.patterns :=
      fun r hr hpatterns => ha plan.patterns (by simp [hpatterns]) r hr
    have hsame : ∀ r : GraphRef, ∀ s t, Both P s t → r.SameIn s.dataset t.dataset :=
      fun r s t hst => .of_eq r (Both.dataset_eq hd s t hst)
    refine .bind (rowWise_onActiveGraph hd (fun r hr => rowWise_run hd hb (hanswered r hr))
      fun r hr f g hfg => SearchPlan.similar_run (hsame r) (fun hpatterns => ?_) hfg) (.pure (rowWise_strip ..))
    obtain ⟨out, hout, -⟩ := (hanswered r hr hpatterns).cached
    exact hout.selfSimilar

/-- Several paths work row by row. -/
theorem rowWise_paths (ps : List PathPattern) : Build.RowWise P (paths ps c) := by
  refine .bind (rowWise_onActiveGraph hd (fun r _ => rowWise_foldl (fun p _ => rowWise_path hd _ r p.hide) .id)
    fun r _ => ?_) (.pure (rowWise_strip ..))
  induction ps with
  | nil => exact fun _ _ hfg => hfg
  | cons p ps ih =>
    exact fun f g hfg => ih _ _ (p.hide.similar_run (Both.dataset_eq hd) _ r hfg)

end Dataset

/-! ## Expressions -/

/-- A filter by whether something exists works row by row if its pattern does not tell stores apart. -/
theorem rowWise_existsFilter (hp : Plan.Similar (Both P) c p) (negated : Bool) :
    Build.RowWise P (existsFilter c p negated) :=
  .skip (similar_validate hp) (.pure (c.engine.rowWise_mergeMap (similar_keptIfFound hp negated)))

/-- Where nothing is drawn each row has its own value. -/
theorem rowWise_mapRows {α : Type} (g : Engine) {draws : Nat} (hdraws : draws = 0) (k : Row → α) :
    Stage.RowWise P (mapRows g draws k) := by
  subst hdraws
  exact g.rowWise_map _

section Tests

variable (ht : ∀ p ∈ tests, Plan.Similar (Both P) c p)
include ht

/-- Answering tests works row by row. -/
theorem rowWise_testAll : Build.RowWise P (testAll c tests) := by
  unfold testAll
  cases tests.isEmpty with
  | true => exact .pure (c.engine.rowWise_map _)
  | false =>
    exact .skip (Build.Similar.forM fun p hp => similar_validate (ht p hp))
      (.pure (c.engine.rowWise_mergeMap (similar_test ht)))

/-- A filter whose expression draws nothing works row by row. -/
theorem rowWise_applyFilter {r : Expression.Ready} (hdraws : r.draws = 0) :
    Build.RowWise P (applyFilter c r tests) :=
  (rowWise_testAll ht).bind (.pure ((rowWise_mapRows _ hdraws _).comp (c.engine.rowWise_filterMap _)))

/-- An extension works row by row if its expression is steady. -/
theorem rowWise_applyExtend (v : Variable) (he : e.isSteady = true) : Build.RowWise P (applyExtend c v e tests) := by
  refine .after (similar_compile c e) fun r hr => (rowWise_testAll ht).bind (.pure ?_)
  exact (rowWise_mapRows _ (Expression.ready_steady he hr).1 _).comp (c.engine.rowWise_mergeMap fun x => .ofList _)

/-- The plan of a filter works row by row if that of its pattern does. -/
theorem rowWise_filter (he : e.isSteady = true) (hp : Build.RowWise P (p c)) :
    Build.RowWise P (filter e tests p c) := by
  refine hp.bind ?_
  split
  · exact rowWise_existsFilter (ht _ List.mem_cons_self) false
  · exact rowWise_existsFilter (ht _ List.mem_cons_self) true
  · exact .after (similar_compile c e) fun r hr => rowWise_applyFilter ht (Expression.ready_steady he hr).1

/-- The plan of an extension works row by row if that of its pattern does. -/
theorem rowWise_extend (v : Variable) (he : e.isSteady = true) (hp : Build.RowWise P (p c)) :
    Build.RowWise P (extend v e tests p c) := hp.bind (rowWise_applyExtend ht v he)

end Tests

/-! ## Combinations of patterns -/

/-- The plan of a join works row by row if those of both parts do. -/
theorem rowWise_join (hp : Build.RowWise P (p c)) (hq : Build.RowWise P (q c)) : Build.RowWise P (join p q c) :=
  hp.bind hq

/-- Of an optional part it is enough that it does not tell stores apart: it is evaluated for each row anyway. -/
theorem rowWise_leftJoin (hp : Build.RowWise P (p c)) (hq : Plan.Similar (Both P) c q)
    {condition : Option (Expression × List Plan)}
    (hc : ∀ e ∈ condition, e.1.HidesDraws (Both P) c ∧ ∀ p ∈ e.2, Plan.Similar (Both P) c p) :
    Build.RowWise P (leftJoin p q condition c) := by
  refine hp.bind (.skip (similar_validate hq) (.after (similar_compileCondition hc) fun ready hready => .pure ?_))
  exact c.engine.rowWise_mergeMap fun x =>
    c.engine.similar_defaultIfEmpty x (similar_optionalMatches hq hready x)

/-- The plan of a union works row by row where its parts do not tell stores apart. -/
theorem rowWise_union (hp : Plan.Similar (Both P) c p) (hq : Plan.Similar (Both P) c q) :
    Build.RowWise P (union p q c) := by
  have hboth : ∀ r ∈ [p, q], Plan.Similar (Both P) c r := List.forall_mem_cons.2 ⟨hp, List.forall_mem_singleton.2 hq⟩
  exact .skip (similar_validate hp)
    (.skip (similar_validate hq) (.pure (c.engine.rowWise_mergeMap (similar_merge_forEach hboth))))

/-- The right side is the same table for all rows. -/
theorem rowWise_minus (hp : Build.RowWise P (p c)) (hq : Plan.Similar (Both P) c q) :
    Build.RowWise P (minus p q c) := by
  obtain ⟨F, hF⟩ := hp
  obtain ⟨W, hW⟩ := exists_table hq [.empty]
  refine ⟨fun x => (F x).filter fun s => ∀ t ∈ W, s.isCompatible t = false, fun source V h => ?_⟩
  refine (hF source V h).bind fun left hleft => hW.bind fun right hright => .pure ?_
  refine c.engine.amountsTo_mergeMap_gather (fun buffer hbuffer => ?_) hright
  have hkeep : (fun s : Solution => (!buffer.any s.isCompatible) = true) =
      fun s => ∀ t ∈ W, s.isCompatible t = false := by
    funext s
    rw [← hbuffer]
    simp
  have hfilter := c.engine.amountsTo_filter (fun s => !buffer.any s.isCompatible) hleft
  rw [← Multiset.filter_bind]
  simpa only [hkeep] using hfilter

/-- A table works row by row. -/
theorem rowWise_values (vs : List Variable) (rows : List (List (Option Term))) :
    Build.RowWise P (values vs rows c) := .pure (c.engine.rowWise_mergeMap fun _ => .ofList _)

/-- What is projected is the same table for all rows. -/
theorem rowWise_project (vs : List Variable) (hp : Plan.Similar (Both P) c p) :
    Build.RowWise P (project vs p c) := by
  obtain ⟨W, hW⟩ := exists_table hp [.empty]
  refine ⟨fun s => (W.map fun t => t.project vs).filterMap s.merge?, fun source V h => ?_⟩
  refine hW.bind fun stage hstage => .pure ?_
  refine c.engine.amountsTo_mergeMap_gather (fun table htable => ?_) (c.engine.amountsTo_map _ hstage)
  rw [← htable]
  exact c.engine.amountsTo_mergeMap (fun s => .ofList (table.filterMap s.merge?)) h

/-- A graph of a given name works row by row if its pattern does there. -/
theorem rowWise_graph (hd : ∀ s, P s → s.dataset = d) {iri : Iri}
    (hp : Build.RowWise P (p (c.withActive (.named iri)))) : Build.RowWise P (graph (.iri iri) p c) := by
  by_cases hsee : c.canSee d iri = true
  · refine .get (fun st hst => ?_) hp
    rw [hd st hst]
    exact funext fun _ => if_pos hsee
  · refine .get (fun st hst => ?_) (.throw (.graphMissing iri))
    rw [hd st hst]
    exact funext fun _ => if_neg hsee

end Plan

end SparqlAlgebra

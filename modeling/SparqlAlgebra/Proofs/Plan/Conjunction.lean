import SparqlAlgebra.Proofs.Expression.Meaning
import SparqlAlgebra.Proofs.Plan.Local
import SparqlAlgebra.Proofs.Plan.Selection

/-!
# Filters over conjunctions

The tests of a conjunction are those of its first part, followed by those of its second part. Each of them has the same
answer there as in a filter of its own, and the value of an expression depends on nothing but its own answers. So a
filter by a conjunction is a filter by one part after the other. A graph that is created by a test for one row, however,
is there for the tests of the next one, and a part that is asked for fewer rows creates fewer graphs.
-/

namespace SparqlAlgebra

open Stage

variable {R : Store → Store → Prop} {c : Scope} {s t : Store}

namespace Expression

variable {a b e : Expression} {r ra rb : Ready} {x : Solution}

/-- Which patterns have solutions for a row. -/
def holdsIn (c : Scope) (x : Solution) (st : Store) (p : Pattern) : Bool :=
  (Plan.found c p.plan x st).1.toOption.getD false

/-- A decision that is made says whether the meaning of the expression is true. -/
theorem decision_eq (ht : R t t) (h : ∀ p ∈ e.tests, Plan.Traceless R c p) (he : e.isSteady = true)
    (hr : e.ready c.compiler = .ok r) (x : Solution) :
    Plan.decision c e.tests r t x = (e.tests.mapM fun p => (Plan.found c p x t).1).map fun _ =>
      (e.meaning c.compiler (holdsIn c x t) x).bind Term.truth? == some true := by
  rw [Plan.decision, Plan.tested_eq_mapM ht h x ht]
  cases has : e.tests.mapM fun p => (Plan.found c p x t).1 with
  | error e => rfl
  | ok as =>
    have hitems := outcome_eq_ok_iff.1 ((mapM_eq_outcome _ _).symm.trans has)
    rw [e.tests_eq_map_plan, List.map_map] at hitems
    have hanswers : e.patterns.map (holdsIn c x t) = as := by
      have hvalues := congrArg (List.map fun answer => answer.toOption.getD false) hitems
      rw [List.map_map, List.map_map] at hvalues
      exact hvalues.trans (List.map_id'' (fun _ => rfl) as)
    rw [← hanswers, ← term?_of_ready hr he (holdsIn c x t) x 0]
    rfl

/-- A conjunction is true if both of its parts are. -/
theorem both_isTrue (u v : Option Bool) :
    (((both u v).map Term.ofBool).bind Term.truth? == some true) = (u == some true && v == some true) := by
  rcases u with _ | _ | _ <;> rcases v with _ | _ | _ <;> rfl

/-- A conjunction of steady expressions is steady. -/
theorem isSteady_and (ha : a.isSteady = true) (hb : b.isSteady = true) : (Expression.and a b).isSteady = true := by
  rw [isSteady, ha, hb, Bool.and_self]

/-- The parts of a conjunction that can be compiled can be compiled. -/
theorem ready_and (hr : (Expression.and a b).ready c.compiler = .ok r) :
    (∃ ra, a.ready c.compiler = .ok ra) ∧ ∃ rb, b.ready c.compiler = .ok rb := by
  have hcalls := (exists_ready_iff c.compiler (.and a b)).1 ⟨r, hr⟩
  rw [calls, callsAccepted_append] at hcalls
  exact hcalls.imp (exists_ready_iff c.compiler a).2 (exists_ready_iff c.compiler b).2

/-- What a conjunction decides its parts decide together. -/
theorem splits_decision (hR : ∀ s t, R s t → R t t) (ha : a.isSteady = true) (hb : b.isSteady = true)
    (h : ∀ p ∈ (Expression.and a b).tests, Plan.Traceless R c p) (hr : (Expression.and a b).ready c.compiler = .ok r)
    (hra : a.ready c.compiler = .ok ra) (hrb : b.ready c.compiler = .ok rb) :
    Splits R (Plan.decision c (Expression.and a b).tests r) (Plan.decision c a.tests ra)
      (Plan.decision c b.tests rb) := by
  intro s t x k hst hk
  have ht := hR s t hst
  have hparts := h
  rw [tests, List.forall_mem_append] at hparts
  have hsame : Plan.decision c (Expression.and a b).tests r s x = Plan.decision c (Expression.and a b).tests r t x := by
    rw [Plan.decision, Plan.decision, (Plan.similar_tested ht h x hst ht).1]
  rw [hsame, decision_eq ht h (isSteady_and ha hb) hr, tests, List.mapM_append] at hk
  rw [decision_eq ht hparts.1 ha hra, decision_eq ht hparts.2 hb hrb]
  cases hta : a.tests.mapM fun p => (Plan.found c p x t).1 with
  | error e =>
    rw [hta] at hk
    cases hk
  | ok as =>
    cases htb : b.tests.mapM fun p => (Plan.found c p x t).1 with
    | error e =>
      rw [hta, htb] at hk
      cases hk
    | ok bs =>
      rw [hta, htb] at hk
      have hvalue := Except.ok.inj hk
      rw [meaning, both_isTrue] at hvalue
      exact ⟨_, _, rfl, rfl, hvalue.symm⟩

end Expression

namespace Plan

variable {a b : Expression} {q : Plan} {source : Flow Solution} {st : Store} {out : List Solution}

/-- What a plan was built to, and the store once the tests for its rows have been validated, show no difference. -/
theorem similar_of_validated {ps : List Plan} {f : Flow Solution} (h : ∀ p ∈ ps, Traceless R c p)
    (hq : Build.Similar R (Stage.Similar R) (q c source) (q c source)) (hst : R st st)
    (hf : (q c source).run st = (.ok f, s)) (hvalid : (ps.forM fun p => validate p c).run s = (.ok (), t)) :
    Stage.Similar R f f ∧ R t t := by
  have hstage := hq st st hst
  rw [hf] at hstage
  cases hstage with
  | ok hff hss =>
    have hvalidate : Build.Similar R Eq (ps.forM fun p => validate p c) (ps.forM fun p => validate p c) :=
      .forM fun p hp => similar_validate (h p hp).similar
    have hstore := (hvalidate s s hss).snd
    rw [hvalid] at hstore
    exact ⟨hff, hstore⟩

/-- A selection by a conjunction that does not fail is a selection by one part after the other. -/
theorem run_selection_and (hR : ∀ s t, R s t → R t t) (ha : a.isSteady = true) (hb : b.isSteady = true)
    (h : ∀ p ∈ (Expression.and a b).tests, Traceless R c p)
    (hq : Build.Similar R (Stage.Similar R) (q c source) (q c source)) (hst : R st st)
    (hout : ((selection (.and a b) q c source >>= collect).run st).1 = .ok out) :
    ((selection b (selection a q) c source >>= collect).run st).1 = .ok out := by
  obtain ⟨g, t, hbuilt, hcollect⟩ := Build.run_bind_eq_ok_iff.1 (Prod.ext hout rfl)
  obtain ⟨f, s, r, hf, hr, htests, rfl⟩ := run_selection_eq_ok_iff.1 hbuilt
  obtain ⟨⟨ra, hra⟩, rb, hrb⟩ := Expression.ready_and hr
  have hsplits := Expression.splits_decision hR ha hb h hr hra hrb
  have hsimilar := similar_of_validated h hq hst hf htests
  have happend : ((a.tests ++ b.tests).forM fun p => validate p c) =
      (a.tests.forM fun p => validate p c) >>= fun _ => b.tests.forM fun p => validate p c := List.forM_append
  rw [Expression.tests, happend] at htests
  obtain ⟨_, u, hta, htb⟩ := Build.run_bind_eq_ok_iff.1 htests
  have hfirst : (selection a q c source).run st = (.ok (c.engine.select (decision c a.tests ra) f), u) :=
    run_selection_eq_ok_iff.2 ⟨f, s, ra, hf, hra, hta, rfl⟩
  rw [Build.run_bind_ok (run_selection_eq_ok_iff.2 ⟨_, u, rb, hfirst, hrb, htb, rfl⟩)]
  exact c.engine.collect_select_select hsplits hsimilar.1 hsimilar.2 (congrArg Prod.fst hcollect)

end Plan

namespace Pattern

/-- A filter by a conjunction keeps the rows that a filter by one part and then a filter by the other part keep, in the
same order, if no evaluation fails and the tests create no graph. Whether a test is evaluated on its own or as a part of
an expression makes no difference to any filter. -/
theorem filter_and :
    (∀ (e : Expression) (q : Plan) (k : Scope) (source : Flow Solution) (st : Store),
      (Plan.filter e e.tests q k source >>= Plan.collect).run st =
        (Plan.filterByExpression e e.tests q k source >>= Plan.collect).run st) ∧
    ∀ {a b : Expression} {p : Pattern} {c : Scope} {st : Store} {rows out : List Solution},
      a.isSteady = true → b.isSteady = true → (Expression.and a b).testsAreSteady = true →
      (∀ x ∈ (Expression.and a b).touches c.active, x.CreatesNone st.dataset) →
      ((c.settings.hints.useCache = true → st.cache = none) ∨
        (∀ x ∈ p.touches c.active, x.CreatesNone st.dataset) ∧
          ToldApart st.dataset (c.lookups st.dataset ((Pattern.filter (.and a b) p).touches c.active)) ∧
          ∀ x ∈ st.kept, Current st.dataset (c.lookups st.dataset ((Pattern.filter (.and a b) p).touches c.active)) x) →
      (((Pattern.filter (.and a b) p).plan c (.ofList rows) >>= Plan.collect).run st).1 = .ok out →
      (((Pattern.filter b (.filter a p)).plan c (.ofList rows) >>= Plan.collect).run st).1 = .ok out := by
  refine ⟨Plan.run_filterByExpression, fun {a b p c st rows out} ha hb htests hnone hkept hout => ?_⟩
  obtain ⟨R, hst, hR, hp, htraceless⟩ := exists_traceless htests hnone hkept
  have hab := Expression.isSteady_and ha hb
  have hparts := htraceless
  rw [Expression.tests, List.forall_mem_append] at hparts
  have hrows := hp _ _ (.ofList rows)
  have hwhole := (Plan.similar_selection hR hab htraceless hrows).bind (fun _ _ => Plan.similar_collect) st st hst
  have hsplit := (Plan.similar_selection hR hb hparts.2 (Plan.similar_selection hR ha hparts.1 hrows)).bind
    (fun _ _ => Plan.similar_collect) st st hst
  rw [plan, hwhole.fst_eq] at hout
  rw [plan, plan, hsplit.fst_eq]
  exact Plan.run_selection_and hR ha hb htraceless hrows hst hout

/-- Who knows somebody who knows somebody, but not the one who is asked about. -/
theorem filter_and_acquaintances :
    let knows : Iri := ⟨"http://example.com/knows"⟩
    let x : Variable := ⟨"x"⟩
    let y : Variable := ⟨"y"⟩
    let a : Resource := .iri ⟨"http://example.com/a"⟩
    let b : Resource := .iri ⟨"http://example.com/b"⟩
    let e : Resource := .iri ⟨"http://example.com/e"⟩
    let st : Store :=
      ⟨⟨(Graph.empty defaultGraphIri ⟨true, true⟩).insertAll
        [⟨a, knows, b.toTerm⟩, ⟨b, knows, e.toTerm⟩, ⟨e, knows, b.toTerm⟩], [], fun _ => ⟨true, true⟩⟩, none, 0⟩
    let c : Scope := ⟨⟨.streaming, ⟨2, .structural, true⟩⟩, ⟨[], .iri knows⟩, .default, none⟩
    let others : Expression := .hasSolution (.bgp [⟨.var y, .iri knows, .var ⟨"z"⟩⟩])
    let stranger : Expression := .not (.hasSolution (.bgp [⟨.var y, .iri knows, .var x⟩]))
    let p : Pattern := .bgp [⟨.var x, .iri knows, .var y⟩]
    let row : Solution := (Solution.empty.insert x a.toTerm).insert y b.toTerm
    others.isSteady = true ∧ stranger.isSteady = true ∧ (Expression.and others stranger).testsAreSteady = true ∧
      (∀ t ∈ (Expression.and others stranger).touches c.active, t.CreatesNone st.dataset) ∧
      (c.settings.hints.useCache = true → st.cache = none) ∧
      (((Pattern.filter (.and others stranger) p).plan c (.ofList [.empty]) >>= Plan.collect).run st).1 = .ok [row] ∧
      (((Pattern.filter stranger (.filter others p)).plan c (.ofList [.empty]) >>= Plan.collect).run st).1 =
        .ok [row] := by
  intro knows x y a b e st c others stranger p row
  have htests : (Expression.and others stranger).testsAreSteady = true := by decide
  have hnone : ∀ t ∈ (Expression.and others stranger).touches c.active, t.CreatesNone st.dataset :=
    (Expression.and others stranger).createsNone_of_isLocal (by decide) _
  have hoff : c.settings.hints.useCache = true → st.cache = none := fun _ => rfl
  have hout : (((Pattern.filter (.and others stranger) p).plan c (.ofList [.empty]) >>= Plan.collect).run st).1 =
      .ok [row] := by decide +kernel
  exact ⟨rfl, rfl, htests, hnone, hoff, hout, filter_and.2 rfl rfl htests hnone (.inl hoff) hout⟩

/-- The second test of the conjunction creates a graph for the first row, and the first test finds it for the second
row. One after the other, the filters keep neither row, and the second test is never reached. -/
theorem created_graph_found_by_next_test :
    let new : Iri := ⟨"http://example.com/new"⟩
    let x : Variable := ⟨"x"⟩
    let st : Store := ⟨⟨.empty defaultGraphIri ⟨true, true⟩, [], fun _ => ⟨true, true⟩⟩, none, 0⟩
    let c : Scope := ⟨⟨.streaming, ⟨1, .structural, false⟩⟩, ⟨[], .iri new⟩, .default, none⟩
    let a : Expression := .hasSolution (.graph (.var ⟨"g"⟩) (.bgp []))
    let b : Expression := .hasSolution (.service (.var x) (.bgp []) false)
    let row : Solution := Solution.empty.insert x (.iri new)
    a.isSteady = true ∧ b.isSteady = true ∧ (Expression.and a b).testsAreSteady = true ∧
      (((Pattern.filter (.and a b) (.bgp [])).plan c (.ofList [row, row]) >>= Plan.collect).run st).1 = .ok [row] ∧
      (((Pattern.filter b (.filter a (.bgp []))).plan c (.ofList [row, row]) >>= Plan.collect).run st).1 = .ok [] ∧
      [row] ≠ [] := by
  intro new x st c a b row
  exact ⟨rfl, rfl, by decide, by decide +kernel, by decide +kernel, List.cons_ne_nil row []⟩

end Pattern

end SparqlAlgebra

import SparqlAlgebra.Proofs.Plan.Collected
import SparqlAlgebra.Proofs.Plan.FilterPaths
import SparqlAlgebra.Proofs.Plan.SourceRows
import SparqlAlgebra.Proofs.Stage.Select
import SparqlAlgebra.Proofs.Storage.Dataset

/-!
# Filters as selections

While a filter answers its tests for one row, they may keep solutions and look at those that have been kept. As long as
they create no graph, nothing of this shows: the store that they leave cannot be told apart from the one that they
found, so each of them has the answer that it has on its own, and the filter might as well only look at the store. The
plan below the filter may draw values, and unless solutions are kept it may create graphs as well.
-/

namespace SparqlAlgebra

open Stage

variable {R : Store → Store → Prop} {c : Scope} {s s' t : Store}

namespace Plan

variable {p : Plan} {tests ps : List Plan}

/-- The plan does not show in which of several related stores it is evaluated, and it leads to stores that are related
to the same ones. -/
structure Traceless (R : Store → Store → Prop) (c : Scope) (p : Plan) : Prop where
  /-- The plan does not tell related stores apart. -/
  similar : Plan.Similar R c p
  /-- Stores related to the same one stay so. -/
  among : ∀ t, R t t → Plan.Similar (Both fun s => R s t) c p

/-! ## Answers that leave no trace -/

section Traceless

variable (ht : R t t)
include ht

/-- Tests that leave no trace have the same answers, and the store stays related to the one before. -/
theorem similar_tested (h : ∀ p ∈ tests, Traceless R c p) (x : Solution) (hs : R s t) (hs' : R s' t) :
    (tested c tests x s).1 = (tested c tests x s').1 ∧ R (tested c tests x s).2 t := by
  obtain ⟨hstages, hstores⟩ := similar_forEach (fun p hp => (h p hp).among t ht) x ⟨hs, hs'⟩
  have hlimit := List.rel_map (fun _ _ hfg => c.engine.similar_limit 1 hfg) hstages
  obtain ⟨hvalue, hstate⟩ := similar_answers hlimit hstores
  exact ⟨hvalue, hstate.1⟩

/-- Each test has the answer that it has on its own. -/
theorem tested_eq_mapM (h : ∀ p ∈ tests, Traceless R c p) (x : Solution) (hs : R s t) :
    (tested c tests x s).1 = tests.mapM fun p => (found c p x s).1 := by
  induction tests with
  | nil => rfl
  | cons p ps ih =>
    obtain ⟨hp, hps⟩ := List.forall_mem_cons.1 h
    have hsimilar : ∀ q ∈ ps, Plan.Similar (Both fun s => R s t) c q := fun q hq => (hps q hq).among t ht
    -- The tests that follow are built before this one is run, and run after it.
    obtain ⟨hstage, hbuilt, -⟩ := similar_now (hp.among t ht _ _ (.ofList [x])) ⟨hs, hs⟩
    have hall := (similar_forEach hsimilar x ⟨hbuilt, hbuilt⟩).2.1
    obtain ⟨hvalue, hrun, -⟩ := (c.engine.similar_limit 1 hstage).collect ⟨hall, hbuilt⟩
    obtain ⟨hstages, -, hstore⟩ := similar_forEach hsimilar x ⟨hbuilt, hs⟩
    have hlimit := List.rel_map (fun _ _ hfg => c.engine.similar_limit 1 hfg) hstages
    have hrest := (similar_answers hlimit ⟨hrun, hstore⟩).1
    have hfound : (found c p x s).1 = ((c.engine.limit 1 (now (p c (.ofList [x])) s).1).collect
        (forEach c x ps (now (p c (.ofList [x])) s).2).2).1.map fun ss => !ss.isEmpty := by
      rw [hvalue]
      rfl
    rw [List.mapM_cons, ← ih hps, hfound, tested, tested, ← hrest, forEach_cons, List.map_cons, answers]
    dsimp only
    rcases (c.engine.limit 1 (now (p c (.ofList [x])) s).1).collect
      (forEach c x ps (now (p c (.ofList [x])) s).2).2 with ⟨e | ss, u⟩
    · rfl
    · dsimp only
      rcases answers ((forEach c x ps (now (p c (.ofList [x])) s).2).1.map (c.engine.limit 1)) u with ⟨e | as, v⟩
      · rfl
      · rfl

end Traceless

/-! ## Filters as selections -/

/-- Whether an expression is true for a row, given the answers to its tests. -/
def decision (c : Scope) (tests : List Plan) (r : Expression.Ready) (st : Store) (x : Solution) :
    Except QueryError Bool :=
  (tested c tests x st).1.map fun as => r.root.truth? ⟨x, as, 0⟩ == some true

/-- A filter without the effects of its tests on the store. -/
def selection (e : Expression) (inner : Plan) : Plan := fun c source => do
  let stage ← inner c source
  let r ← compile c e
  e.tests.forM fun p => validate p c
  return c.engine.select (decision c e.tests r) stage

section Selection

variable (hR : ∀ s t, R s t → R t t)
include hR

/-- The effects of the tests for a row do not show. -/
theorem similar_accepted_choice (h : ∀ p ∈ tests, Traceless R c p) (r : Expression.Ready) (x : Solution) :
    Stage.Similar R (c.engine.filterMap (accepted r) (test c tests x)) (choice (decision c tests r) x) := by
  refine (c.engine.prompt_filterMap _ (prompt_test c tests x)).similar (prompt_choice _ x) fun s t hst => ?_
  obtain ⟨hvalue, hstate⟩ := similar_tested (hR s t hst) h x hst (hR s t hst)
  rw [collect_accepted, collect_choice, decision, hvalue]
  refine ⟨?_, hstate⟩
  cases (tested c tests x t).1 with
  | error e => rfl
  | ok as =>
    dsimp only [Except.map, accepted]
    cases r.root.truth? ⟨x, as, 0⟩ == some true <;> rfl

/-- An expression that draws nothing, with such tests, makes a filter a selection. -/
theorem similar_selection {e : Expression} (he : e.isSteady = true) (h : ∀ p ∈ e.tests, Traceless R c p) {q q' : Plan}
    {f g : Flow Solution} (hq : Build.Similar R (Stage.Similar R) (q c f) (q' c g)) :
    Build.Similar R (Stage.Similar R) (filter e e.tests q c f) (selection e q' c g) := by
  refine (similar_filterByExpression e q c f).trans_eq (hq.bind fun f g hfg => ?_)
  refine (similar_compile c e).bind fun r _ hr => ?_
  obtain ⟨rfl, hr⟩ := hr
  refine (similar_applyFilter_each (Expression.ready_steady he hr).1 c e.tests f).trans_eq ?_
  refine (Build.Similar.forM fun p hp => similar_validate (h p hp).similar).bind fun _ _ _ => .pure ?_
  exact c.engine.similar_mergeMap (similar_accepted_choice hR h r) hfg

end Selection

/-- What is needed for a selection to be built. -/
theorem run_selection_eq_ok_iff {e : Expression} {q : Plan} {source g : Flow Solution} {st t : Store} :
    (selection e q c source).run st = (.ok g, t) ↔
      ∃ f s r, (q c source).run st = (.ok f, s) ∧ e.ready c.compiler = .ok r ∧
        (e.tests.forM fun p => validate p c).run s = (.ok (), t) ∧ g = c.engine.select (decision c e.tests r) f := by
  unfold selection
  rw [Build.run_bind_eq_ok_iff]
  constructor
  · rintro ⟨f, s, hf, hrest⟩
    obtain ⟨r, s', hr, hrest⟩ := Build.run_bind_eq_ok_iff.1 hrest
    obtain ⟨_, t', htests, hpure⟩ := Build.run_bind_eq_ok_iff.1 hrest
    rw [run_compile, Prod.mk.injEq] at hr
    obtain ⟨hready, rfl⟩ := hr
    cases hpure
    exact ⟨f, s, r, hf, hready, htests, rfl⟩
  · rintro ⟨f, s, r, hf, hready, htests, rfl⟩
    refine ⟨f, s, hf, ?_⟩
    have hcompile : (compile c e).run s = (.ok r, s) := by rw [run_compile, hready]
    rw [Build.run_bind_ok hcompile, Build.run_bind_ok htests]
    rfl

end Plan

/-! ## Stores in which testing leaves no trace -/

/-- The stores have the same graphs, with none missing that a dataset has, and they draw the same and keep nothing. -/
structure Unkept (k : Settings) (d : Dataset) (s t : Store) : Prop where
  /-- The stores have the same dataset. -/
  dataset : s.dataset = t.dataset
  /-- The stores draw the same values next. -/
  seed : s.seed = t.seed
  /-- The first store keeps nothing. -/
  left : k.hints.useCache = true → s.cache = none
  /-- The second store keeps nothing. -/
  right : k.hints.useCache = true → t.cache = none
  /-- No graph of the dataset is missing. -/
  grown : ∀ iri, d.hasNamed iri = true → t.dataset.hasNamed iri = true

namespace Unkept

variable {k : Settings} {d : Dataset}

/-- Stores without anything kept are told apart by nothing but their datasets and drawn values. -/
theorem indistinct : Indistinct (Unkept k d) where
  dataset _ _ h := h.dataset
  seed _ _ h := h.seed
  reseed _ _ _ h := ⟨h.dataset, rfl, h.left, h.right, h.grown⟩

/-- A store that is related to another one is related to itself. -/
theorem refl_right (h : Unkept k d s t) : Unkept k d t t := ⟨rfl, rfl, h.right, h.right, h.grown⟩

/-- Graphs may be created. -/
theorem creates (iri : Iri) : Plan.Creates (Unkept k d) iri := by
  intro s t e h he
  rw [h.dataset] at he
  exact ⟨rfl, h.seed, h.left, h.right, fun other hother => Dataset.hasNamed_of_create he (h.grown other hother)⟩

/-- Whatever is touched, it shows no difference. -/
theorem hides (x : Touch) : x.Hides (Unkept c.settings d) c := by
  have hunused : ∀ o : Option Cache, (c.settings.hints.useCache = true → o = none) →
      (if c.settings.hints.useCache then o else none) = none := by
    intro o ho
    by_cases huse : c.settings.hints.useCache = true
    · rw [if_pos huse, ho huse]
    · rw [if_neg huse]
  exact Touch.Hides.of_anywhere ⟨creates, fun r ps =>
    Join.similar_cachedBgp_of_unused indistinct fun s t h => ⟨hunused _ h.left, hunused _ h.right⟩⟩ x

end Unkept

/-- The tests of a steady expression leave no trace where nothing that they touch shows. -/
theorem Expression.traceless_tests {e : Expression} (hI : Indistinct R) (he : e.testsAreSteady = true)
    (hides : ∀ x ∈ e.touches c.active, x.Hides R c)
    (hharmless : ∀ t, R t t → ∀ x ∈ e.touches c.active, x.Harmless (fun s => R s t) c t.dataset) :
    ∀ p ∈ e.tests, Plan.Traceless R c p := fun p hp =>
  ⟨e.similar_tests hI.dataset _ _ ⟨hides, .inl he⟩ (.refl _) p hp,
    fun t ht => e.similar_of_harmless (fun s hs => hI.dataset s t hs) he (hharmless t ht) p hp⟩

namespace Pattern

variable {p : Pattern} {e : Expression} {st : Store}

/-- Tests that create no graph leave no trace among stores that draw the same and either keep nothing, or keep what is
current while no graph at all is created. -/
theorem exists_traceless (he : e.testsAreSteady = true) (hnone : ∀ x ∈ e.touches c.active, x.CreatesNone st.dataset)
    (hkept : (c.settings.hints.useCache = true → st.cache = none) ∨
      (∀ x ∈ p.touches c.active, x.CreatesNone st.dataset) ∧
        ToldApart st.dataset (c.lookups st.dataset ((Pattern.filter e p).touches c.active)) ∧
        ∀ x ∈ st.kept, Current st.dataset (c.lookups st.dataset ((Pattern.filter e p).touches c.active)) x) :
    ∃ R, R st st ∧ (∀ s t, R s t → R t t) ∧ Plan.Similar R c p.plan ∧ ∀ q ∈ e.tests, Plan.Traceless R c q := by
  rcases hkept with hoff | ⟨hpnone, htold, hcurrent⟩
  · have hI : Indistinct (Unkept c.settings st.dataset) := Unkept.indistinct
    refine ⟨Unkept c.settings st.dataset, ⟨rfl, rfl, hoff, hoff, fun _ h => h⟩, fun s t h => h.refl_right,
      p.similar_plan hI.dataset _ _ ⟨fun x _ => Unkept.hides x, .inr hI.redraws⟩ (.refl _),
      e.traceless_tests hI he (fun x _ => Unkept.hides x) fun t ht x hx => ?_⟩
    have hxnone := hnone x hx
    cases x with
    | lookup a qs =>
      exact fun r _ => Join.answered_of_unkept (fun s hs => ⟨hs.dataset, hs.left⟩) r qs
    | create iri => exact ht.grown iri hxnone
    | anywhere => exact hxnone
  · rw [touches] at htold hcurrent
    have hserves := Serves.of_current htold
    have hall : ∀ x ∈ e.touches c.active ++ p.touches c.active, x.CreatesNone st.dataset :=
      List.forall_mem_append.2 ⟨hnone, hpnone⟩
    obtain ⟨hides, hphides⟩ := List.forall_mem_append.1 (Touch.hides_of_serves hserves (fun _ hl => hl) hall)
    have hI : Indistinct (Alike st.dataset (Current st.dataset
        (c.lookups st.dataset (e.touches c.active ++ p.touches c.active)))) := Alike.indistinct
    refine ⟨_, ⟨rfl, rfl, rfl, hcurrent, hcurrent⟩, fun s t h => ⟨h.right, h.right, rfl, h.keptRight, h.keptRight⟩,
      p.similar_plan hI.dataset _ _ ⟨hphides, .inr hI.redraws⟩ (.refl _),
      e.traceless_tests hI he hides fun t ht x hx => ?_⟩
    have hxnone := hnone x hx
    cases x with
    | lookup a qs =>
      intro r hr
      rw [ht.left] at hr ⊢
      by_cases huse : c.settings.hints.useCache = true
      · have hl : (⟨c.settings, r, qs⟩ : Lookup) ∈
            c.lookups st.dataset (e.touches c.active ++ p.touches c.active) :=
          ⟨huse, rfl, a, List.mem_append_left _ hx, hr⟩
        exact Join.answered_of_alike hserves hl (fun s hs => ⟨t, hs⟩) fun s hs => hs.keep (hserves.keeps _ hl)
      · exact Join.answered_of_unkept (fun s hs => ⟨hs.left, fun h => absurd h huse⟩) r qs
    | create iri =>
      rw [ht.left]
      exact hxnone
    | anywhere => exact hxnone

end Pattern

end SparqlAlgebra

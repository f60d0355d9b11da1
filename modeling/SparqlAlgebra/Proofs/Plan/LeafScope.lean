import SparqlAlgebra.Proofs.Join.InScope
import SparqlAlgebra.Proofs.Path.Solutions
import SparqlAlgebra.Proofs.Plan.Only
import SparqlAlgebra.Proofs.Plan.Touches

/-!
# What the plans of triples bind

A basic graph pattern binds the variables of its triples, those with a predicate of the search vocabulary among them,
and a path binds the variables at its ends. The variables that stand for blank nodes are bound on the way and removed
at the end. In a graph that the solutions name, the variable that names it is bound as well.
-/

namespace SparqlAlgebra

open Solution Stage

variable {P : Store → Prop} {c : Scope} {W : Set Variable} {source : Flow Solution} {ps : List TriplePattern}

/-! ## Searches -/

namespace SearchSetup

variable {s s' : SearchSetup} {ss ss' : List SearchSetup} {t : TriplePattern} {i : Iri}

/-- The variables that take the results of a search are in the set. -/
structure ResultsIn (W : Set Variable) (relevance rank : Option Variable) : Prop where
  /-- The variable for the relevance is in the set. -/
  relevance_mem : ∀ v ∈ relevance, v ∈ W
  /-- The variable for the rank is in the set. -/
  rank_mem : ∀ v ∈ rank, v ∈ W

/-- Only the object of a triple takes results. -/
theorem mem_of_target {v : Variable} (ht : ∀ v ∈ t.vars, v ∈ W) (h : target t = .ok v) : v ∈ W := by
  unfold target at h
  split at h
  · rename_i w hw
    rw [← Except.ok.inj h]
    exact ht w (TriplePattern.mem_vars.2 (.inr (.inr (by rw [hw]; rfl))))
  · cases h

/-- A setting that is made only once has the variable it had or the one it is given. -/
theorem mem_of_once {present x : Option Variable} {w : Variable} (hw : w ∈ W) (h : once present t w = .ok x) :
    ∀ v ∈ x, v ∈ W := by
  unfold once at h
  split at h
  · cases h
  · rw [← Except.ok.inj h]
    rintro _ ⟨⟩
    exact hw

/-- A triple adds at most its object to the variables that take results. -/
theorem ResultsIn.apply (hs : ResultsIn W s.relevance s.rank) (ht : ∀ v ∈ t.vars, v ∈ W) (h : s.apply t i = .ok s') :
    ResultsIn W s'.relevance s'.rank := by
  unfold SearchSetup.apply at h
  split_ifs at h
  · obtain ⟨l, -, h⟩ := exists_of_bind_eq_ok h
    obtain ⟨x, -, h⟩ := exists_of_bind_eq_ok h
    rw [← Except.ok.inj h]
    exact hs
  · obtain ⟨l, -, h⟩ := exists_of_bind_eq_ok h
    rw [← Except.ok.inj h]
    exact hs
  · obtain ⟨y, -, h⟩ := exists_of_bind_eq_ok h
    obtain ⟨x, -, h⟩ := exists_of_bind_eq_ok h
    rw [← Except.ok.inj h]
    exact hs
  · obtain ⟨y, -, h⟩ := exists_of_bind_eq_ok h
    obtain ⟨x, -, h⟩ := exists_of_bind_eq_ok h
    rw [← Except.ok.inj h]
    exact hs
  · obtain ⟨y, -, h⟩ := exists_of_bind_eq_ok h
    obtain ⟨x, -, h⟩ := exists_of_bind_eq_ok h
    rw [← Except.ok.inj h]
    exact hs
  · obtain ⟨y, -, h⟩ := exists_of_bind_eq_ok h
    obtain ⟨x, -, h⟩ := exists_of_bind_eq_ok h
    rw [← Except.ok.inj h]
    exact hs
  · obtain ⟨v, hv, h⟩ := exists_of_bind_eq_ok h
    obtain ⟨x, hx, h⟩ := exists_of_bind_eq_ok h
    rw [← Except.ok.inj h]
    exact ⟨mem_of_once (mem_of_target ht hv) hx, hs.rank_mem⟩
  · obtain ⟨v, hv, h⟩ := exists_of_bind_eq_ok h
    obtain ⟨x, hx, h⟩ := exists_of_bind_eq_ok h
    rw [← Except.ok.inj h]
    exact ⟨hs.relevance_mem, mem_of_once (mem_of_target ht hv) hx⟩

/-- A triple that sets up a search names only variables of its own for the results. -/
theorem resultsIn_applyTo {v : Variable} (hss : ∀ s ∈ ss, ResultsIn W s.relevance s.rank) (ht : ∀ v ∈ t.vars, v ∈ W)
    (h : applyTo t i v ss = .ok ss') : ∀ s ∈ ss', ResultsIn W s.relevance s.rank := by
  induction ss generalizing ss' with
  | nil =>
    have hnew : ResultsIn W (ofVariable v).relevance (ofVariable v).rank := ⟨by simp [ofVariable], by simp [ofVariable]⟩
    obtain ⟨s, hs, h⟩ := exists_of_bind_eq_ok h
    rw [← Except.ok.inj h, List.forall_mem_singleton]
    exact hnew.apply ht hs
  | cons s ss ih =>
    obtain ⟨hs, hss⟩ := List.forall_mem_cons.1 hss
    rw [applyTo] at h
    split at h
    · obtain ⟨u, hu, h⟩ := exists_of_bind_eq_ok h
      rw [← Except.ok.inj h, List.forall_mem_cons]
      exact ⟨hs.apply ht hu, hss⟩
    · obtain ⟨us, hus, h⟩ := exists_of_bind_eq_ok h
      rw [← Except.ok.inj h, List.forall_mem_cons]
      exact ⟨hs, ih hss hus⟩

/-- Triples that set up searches name only variables of their own for the results. -/
theorem resultsIn_ofTriples {ts : List TriplePattern} (hss : ∀ s ∈ ss, ResultsIn W s.relevance s.rank)
    (hts : ∀ t ∈ ts, ∀ v ∈ t.vars, v ∈ W) (h : ofTriples ts ss = .ok ss') :
    ∀ s ∈ ss', ResultsIn W s.relevance s.rank := by
  induction ts generalizing ss with
  | nil =>
    rw [← Except.ok.inj h]
    exact hss
  | cons t ts ih =>
    obtain ⟨ht, hts⟩ := List.forall_mem_cons.1 hts
    rw [ofTriples] at h
    split at h
    · obtain ⟨us, hus, h⟩ := exists_of_bind_eq_ok h
      exact ih (resultsIn_applyTo hss ht hus) hts h
    · cases h

end SearchSetup

namespace SearchPlan

variable {plan : SearchPlan}

/-- A plan is made of some of the patterns, and its results go to variables of the set. -/
structure In (W : Set Variable) (ps : List TriplePattern) (plan : SearchPlan) : Prop where
  /-- The patterns of the plan are among the given ones. -/
  patterns : ∀ p ∈ plan.patterns, p ∈ ps
  /-- The patterns that are searched are among the given ones. -/
  searched : ∀ q ∈ plan.searches, q.query.pattern ∈ ps
  /-- The results of the searches go to variables of the set. -/
  results : ∀ q ∈ plan.searches, SearchSetup.ResultsIn W q.relevance q.rank

/-- The searches that are planned name only such variables and have patterns of their own. -/
theorem in_takePatterns {ss : List SearchSetup} (hss : ∀ s ∈ ss, SearchSetup.ResultsIn W s.relevance s.rank)
    (h : SearchSetup.takePatterns ss ps = .ok plan) : plan.In W ps := by
  induction ss generalizing ps plan with
  | nil =>
    rw [← Except.ok.inj h]
    exact ⟨fun _ hp => hp, List.forall_mem_nil _, List.forall_mem_nil _⟩
  | cons s ss ih =>
    obtain ⟨hs, hss⟩ := List.forall_mem_cons.1 hss
    rw [SearchSetup.takePatterns] at h
    split at h
    · cases h
    · rename_i n hn
      obtain ⟨q, hq, h⟩ := exists_of_bind_eq_ok h
      obtain ⟨rest, hrest, h⟩ := exists_of_bind_eq_ok h
      rw [← Except.ok.inj h]
      have hin := ih hss hrest
      have herase : ∀ p ∈ ps.eraseIdx n, p ∈ ps := fun p hp => List.mem_of_mem_eraseIdx hp
      have hpattern : q.query.pattern ∈ ps ∧ q.relevance = s.relevance ∧ q.rank = s.rank := by
        unfold SearchSetup.toSearch at hq
        split at hq
        · obtain ⟨_, -, hq⟩ := exists_of_bind_eq_ok hq
          rw [← Except.ok.inj hq]
          refine ⟨?_, rfl, rfl⟩
          obtain ⟨hlt, -⟩ := List.findIdx?_eq_some_iff_getElem.1 hn
          dsimp only
          rw [List.getElem?_eq_getElem hlt, Option.getD_some]
          exact List.getElem_mem hlt
        · cases hq
      refine ⟨fun p hp => herase p (hin.patterns p hp), ?_, ?_⟩
      · exact List.forall_mem_cons.2 ⟨hpattern.1, fun q hq => herase _ (hin.searched q hq)⟩
      · refine List.forall_mem_cons.2 ⟨?_, hin.results⟩
        rw [hpattern.2.1, hpattern.2.2]
        exact hs

/-- A plan of searches stays within the variables of its patterns. -/
theorem in_ofPatterns (hps : ∀ p ∈ ps, ∀ v ∈ p.vars, v ∈ W) (h : ofPatterns ps = .ok plan) : plan.In W ps := by
  unfold ofPatterns at h
  rw [List.partition_eq_filter_filter] at h
  obtain ⟨ss, hss, h⟩ := exists_of_bind_eq_ok h
  have hresults := SearchSetup.resultsIn_ofTriples (W := W) (List.forall_mem_nil _)
    (fun t ht => hps t (List.mem_of_mem_filter ht)) hss
  have hin := in_takePatterns hresults h
  exact ⟨fun p hp => List.mem_of_mem_filter (hin.patterns p hp), fun q hq => List.mem_of_mem_filter (hin.searched q hq),
    hin.results⟩

end SearchPlan

/-- The hits of a search carry no bindings. -/
theorem Search.only_run {g : Engine} {r : GraphRef} {q : Search} {hits : Flow Hit} (h : q.run g r = .ok hits) :
    Stage.Only P (fun _ => True) hits := by
  unfold run at h
  split at h
  · cases h
  · cases h
  · rw [← Except.ok.inj h]
    have hscored := fun place => g.only_filterMap (f := q.score? place) (R := fun _ => True) (fun _ _ _ _ => trivial)
      (r.only_find (P := P) g q.pattern)
    split
    · exact g.only_rearrange (fun _ _ _ _ => trivial) (hscored _)
    · exact hscored _

namespace BoundSearch

variable {q : BoundSearch} {g : Engine} {r : GraphRef}

/-- Binding the results of a search adds only the variables for them. -/
theorem bindsIn_bindResults (h : Hit) {s : Solution} (hq : SearchSetup.ResultsIn W q.relevance q.rank)
    (hs : s.BindsIn W) : (q.bindResults h s).BindsIn W := by
  have hranked : ∀ {t : Solution}, t.BindsIn W → ∀ v, q.rank = some v →
      (t.insert v (.literal (.ofInt h.rank))).BindsIn W :=
    fun ht v hv => ht.insert (hq.rank_mem v hv)
  unfold bindResults
  cases hrelevance : q.relevance with
  | none =>
    dsimp only
    split
    · exact hranked hs _ ‹_›
    · exact hs
  | some v =>
    have hrelevant := hs.insert (hq.relevance_mem v hrelevance) (t := .literal (Numeric.double h.relevance).toLiteral)
    dsimp only
    split
    · exact hranked hrelevant _ ‹_›
    · exact hrelevant

/-- A search binds the variables of its pattern and those that take its results. -/
theorem only_run (hpattern : ∀ v ∈ q.query.pattern.vars, v ∈ W) (hq : SearchSetup.ResultsIn W q.relevance q.rank)
    (hs : Stage.Only P (BindsIn W) source) : Stage.Only P (BindsIn W) (q.run g r source) := by
  refine g.only_mergeMap (fun s hs => ?_) hs
  dsimp only
  split
  · rename_i hits hhits
    refine g.only_filterMap (fun h _ u hu => ?_) (Search.only_run hhits)
    obtain ⟨m, hm, rfl⟩ := Option.map_eq_some_iff.1 hu
    obtain ⟨b, hb, hmerge⟩ := Option.bind_eq_some_iff.1 hm
    have hfilled : ∀ v ∈ (q.patternFor s).vars, v ∈ W := fun v hv => hpattern v (TriplePattern.vars_bind _ _ v hv)
    exact bindsIn_bindResults h hq (hs.merge? (TriplePattern.bindsIn_of_match? hfilled hb) hmerge)
  · exact .fail _

end BoundSearch

/-- A plan of searches adds only variables of its patterns. -/
theorem SearchPlan.only_run {k : Settings} {plan : SearchPlan} {r : GraphRef} (hplan : plan.In W ps)
    (hps : ∀ p ∈ ps, ∀ v ∈ p.vars, v ∈ W)
    (hc : plan.patterns.isEmpty = false → Join.StaysInScope P k plan.patterns)
    (hs : Stage.Only P (BindsIn W) source) : Stage.Only P (BindsIn W) (plan.run k source r) := by
  have hjoined : Stage.Only P (BindsIn W)
      (if plan.patterns.isEmpty then source else Join.bound k r plan.patterns source) := by
    split
    · exact hs
    · rename_i hp
      exact Join.only_bound (hc (by simpa using hp)) (fun p hp => hps p (hplan.patterns p hp)) hs
  have hfold : ∀ (qs : List BoundSearch) (stage : Flow Solution), (∀ q ∈ qs, q ∈ plan.searches) →
      Stage.Only P (BindsIn W) stage →
      Stage.Only P (BindsIn W) (qs.foldl (fun stage q => q.run k.engine r stage) stage) := by
    intro qs
    induction qs with
    | nil => exact fun _ _ hstage => hstage
    | cons q qs ih =>
      intro stage hqs hstage
      obtain ⟨hq, hqs⟩ := List.forall_mem_cons.1 hqs
      exact ih _ hqs (BoundSearch.only_run (hps _ (hplan.searched q hq)) (hplan.results q hq) hstage)
  exact hfold plan.searches _ (fun _ hq => hq) hjoined

/-! ## Paths -/

/-- The solutions of a path bind the variables at its ends. -/
theorem Path.bindsIn_of_mem_solutions {ts : List Triple} {p : Path} {x y : Slot} {m : Solution}
    (hx : ∀ v, x.var? = some v → v ∈ W) (hy : ∀ v, y.var? = some v → v ∈ W) (h : m ∈ Path.solutions ts x p y) :
    m.BindsIn W := by
  unfold solutions at h
  split at h
  · split at h
    · rw [List.mem_singleton.1 h]
      exact bindsIn_empty
    · cases h
  · obtain ⟨t, -, rfl⟩ := List.mem_map.1 h
    exact bindsIn_empty.insert (hy _ rfl)
  · obtain ⟨t, -, rfl⟩ := List.mem_map.1 h
    exact bindsIn_empty.insert (hx _ rfl)
  · split at h
    · obtain ⟨e, -, rfl⟩ := List.mem_map.1 h
      exact bindsIn_empty.insert (hx _ rfl)
    · obtain ⟨e, -, rfl⟩ := List.mem_map.1 h
      exact (bindsIn_empty.insert (hx _ rfl)).insert (hy _ rfl)

/-- A path adds only the variables at its ends. -/
theorem PathPattern.only_run {g : Engine} {r : GraphRef} {q : PathPattern}
    (hx : ∀ v, q.subject.var? = some v → v ∈ W) (hy : ∀ v, q.object.var? = some v → v ∈ W)
    (hs : Stage.Only P (BindsIn W) source) : Stage.Only P (BindsIn W) (q.run g r source) := by
  refine g.only_mergeMap (fun s hs => .read fun st _ => ?_) hs
  refine g.only_filterMap (fun m hm u hu => hs.merge? hm hu) (.ofList fun m hm => ?_)
  exact Path.bindsIn_of_mem_solutions (fun v hv => hx v (Slot.var?_of_bind hv)) (fun v hv => hy v (Slot.var?_of_bind hv)) hm

/-! ## Active graphs and hidden variables -/

namespace Scope

/-- The variable of an active graph that the solutions name. -/
def enclosing (c : Scope) : Set Variable := {v | c.active = .bound v}

/-- Going through the graphs that the rows name adds only the variable that names them. -/
theorem only_onBoundGraph {v : Variable} {evaluate : Flow Solution → GraphRef → Flow Solution} (hv : v ∈ W)
    (he : ∀ r source, Stage.Only P (BindsIn W) source → Stage.Only P (BindsIn W) (evaluate source r)) {s : Solution}
    (hs : s.BindsIn W) : Stage.Only P (BindsIn W) (c.onBoundGraph v evaluate s) := by
  refine .read fun st _ => ?_
  split
  · split
    · exact he _ _ (.ofList (.cons hs .nil))
    · exact .done
  · exact .done
  · refine c.engine.only_merge (List.forall_mem_map.2 fun iri _ => ?_)
    exact he _ _ (.ofList (.cons (hs.insert hv) .nil))

/-- An active graph adds at most the variable that names it. -/
theorem only_onActiveGraph {evaluate : Flow Solution → GraphRef → Flow Solution} (hc : c.enclosing ⊆ W)
    (he : ∀ r source, Stage.Only P (BindsIn W) source → Stage.Only P (BindsIn W) (evaluate source r))
    (hs : Stage.Only P (BindsIn W) source) :
    Build.Only P (Stage.Only P (BindsIn W)) (c.onActiveGraph source evaluate) := by
  refine Build.Only.get.bind fun st _ => ?_
  split
  · exact .throw _
  · exact .pure (he _ source hs)
  · rename_i v _ hactive
    exact .pure (c.engine.only_mergeMap (fun s hs => only_onBoundGraph (hc hactive) he hs) hs)
  · exact .throw _

end Scope

/-- Hidden variables that are bound on the way are removed. -/
theorem HiddenVariable.only_strip {g : Engine} {hidden : List Variable} {stage : Flow Solution}
    (h : Stage.Only P (BindsIn (W ∪ {v | v ∈ hidden})) stage) : Stage.Only P (BindsIn W) (strip g hidden stage) := by
  unfold strip
  split
  · rename_i hnone
    refine h.mono fun s hs v hv => (hs v hv).resolve_right ?_
    simp [List.isEmpty_iff.1 hnone]
  · refine g.only_map (fun s hs v hv => ?_) h
    rw [← hide, binds, get?_hide] at hv
    split at hv
    · cases hv
    · rename_i hshown
      exact (hs v hv).resolve_right hshown

namespace Plan

/-- A basic graph pattern stays within its variables and that of the enclosing graph. -/
theorem staysIn_bgp (h : ∀ qs ∈ lookedUp ps, Join.StaysInScope P c.settings qs) :
    StaysIn P c (TriplePattern.varsOf ps ∪ c.enclosing) (bgp ps) := by
  intro W hV source hs
  obtain ⟨hvars, hc⟩ := Set.union_subset_iff.1 hV
  unfold lookedUp at h
  unfold bgp
  split
  · exact .throw _
  · rename_i plan hplan
    rw [hplan] at h
    have hreplaced : ∀ q ∈ ps.map HiddenVariable.replace, ∀ v ∈ q.vars,
        v ∈ W ∪ {v | v ∈ HiddenVariable.ofPatterns ps} :=
      List.forall_mem_map.2 fun p hp v hv => (HiddenVariable.vars_replace hp hv).imp (fun hv => hvars ⟨p, hp, hv⟩) id
    refine (Scope.only_onActiveGraph (W := W ∪ {v | v ∈ HiddenVariable.ofPatterns ps})
      (hc.trans Set.subset_union_left) (fun r source hs => ?_) ?_).bind fun stage hstage => ?_
    · refine SearchPlan.only_run (SearchPlan.in_ofPatterns hreplaced hplan) hreplaced (fun hp => ?_) hs
      exact h plan.patterns (by simp [hp])
    · exact hs.mono fun s hs => hs.mono Set.subset_union_left
    · exact .pure (HiddenVariable.only_strip hstage)

/-- A path stays within the variables of its ends and that of the enclosing graph. -/
theorem staysIn_path (x : Slot) (p : Path) (y : Slot) :
    StaysIn P c ({v | x.var? = some v ∨ y.var? = some v} ∪ c.enclosing) (paths [⟨x, p, y⟩]) := by
  intro W hV source hs
  obtain ⟨hvars, hc⟩ := Set.union_subset_iff.1 hV
  refine (Scope.only_onActiveGraph (W := W ∪ {v | v ∈ HiddenVariable.ofSlots [x, y]})
    (hc.trans Set.subset_union_left) (fun r source hs => ?_) ?_).bind fun stage hstage => ?_
  · refine PathPattern.only_run (fun v hv => ?_) (fun v hv => ?_) hs
    · exact (HiddenVariable.var?_replaceSlot (by simp) hv).imp (fun h => hvars (.inl h)) id
    · exact (HiddenVariable.var?_replaceSlot (by simp) hv).imp (fun h => hvars (.inr h)) id
  · exact hs.mono fun s hs => hs.mono Set.subset_union_left
  · exact .pure (HiddenVariable.only_strip hstage)

end Plan

end SparqlAlgebra

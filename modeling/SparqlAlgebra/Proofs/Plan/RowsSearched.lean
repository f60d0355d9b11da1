import SparqlAlgebra.Proofs.Algebra.Known
import SparqlAlgebra.Proofs.Plan.Rows

/-!
# Basic graph patterns deliver their rows, also if they search for keywords

A search that does not number its hits delivers a bag of them, whatever the order in which the triples are found. So a
basic graph pattern with such searches treats each row on its own, and what a row finds depends only on which triples
there are. Numbers would tell hits of the same relevance by the order in which they are found.
-/

namespace SparqlAlgebra

open Solution Stage Join

variable {P : Store → Prop} {mayFail : Prop} {c : Scope} {d e : Dataset} {r r' : GraphRef} {st : Store}
  {source : Flow Solution} {V : Multiset Solution}

/-! ## Searches without numbers -/

/-- The hits of a search in a graph. A search with a fault has none. -/
def Search.hits (d : Dataset) (r : GraphRef) (q : Search) : Multiset Hit :=
  match q.fault?, q.place? with
  | none, some place => ((r.tripleSet d).filter q.pattern.isMatch).filterMap (q.score? place)
  | _, _ => 0

/-- A search without ranks delivers its hits. -/
theorem Search.within_run (hP : ∀ s, P s → s.dataset = d) {g : Engine} {q : Search} (hq : q.isRanked = false)
    {stage : Flow Hit} (h : q.run g r = .ok stage) : Within P mayFail stage (q.hits d r) := by
  unfold run at h
  unfold hits
  split at h
  · cases h
  · cases h
  · rename_i place hfault hplace
    simp only [hq, Bool.false_eq_true, if_false] at h
    obtain rfl := Except.ok.inj h
    obtain ⟨found, hf, hperm⟩ := r.yields_find hP g q.pattern
    simp only [hfault, hplace]
    rw [← Multiset.coe_eq_coe.2 (hperm.filterMap _)]
    exact (g.yields_filterMap _ hf).within

/-- A search has no fault if it has keywords, bounds that leave something between them, and a place in its pattern. -/
theorem Search.fault?_eq_none_iff {q : Search} :
    q.fault? = none ↔ q.keywords.isEmpty = false ∧ q.crossedRelevance? = none ∧ q.crossedRank? = none ∧
      ∃ place, q.place? = some place := by
  unfold fault?
  split
  · rename_i hkeywords
    simp [hkeywords]
  · rename_i hkeywords
    rw [Bool.not_eq_true] at hkeywords
    split <;> simp_all

/-- A search without a fault has hits in every graph, if only none. -/
theorem Search.exists_run {q : Search} (h : q.fault? = none) (g : Engine) (r : GraphRef) :
    ∃ stage, q.run g r = .ok stage := by
  obtain ⟨-, -, -, place, hplace⟩ := fault?_eq_none_iff.1 h
  unfold run
  rw [h, hplace]
  exact ⟨_, rfl⟩

namespace BoundSearch

/-- The search for one solution. -/
def queryFor (q : BoundSearch) (s : Solution) : Search := { q.query with pattern := q.patternFor s }

/-- The searched variable stays open where it is. -/
theorem place?_queryFor (q : BoundSearch) (s : Solution) : (q.queryFor s).place? = q.query.place? := by
  have hopen : ∀ x : Slot, x.bind (s.erase q.query.searched) = .var q.query.searched ↔ x = .var q.query.searched := by
    intro x
    cases x with
    | term t => rfl
    | var w =>
      rw [Slot.bind, Solution.erase, get?_filter]
      by_cases hw : w = q.query.searched
      · cases s.get? w <;> simp [hw]
      · cases s.get? w <;> simp [Option.filter, hw]
  rw [Search.place?, Search.place?]
  simp only [queryFor, patternFor, TriplePattern.bind, hopen]

/-- So the search has a fault for a row only if it has one by itself. -/
theorem fault?_queryFor (q : BoundSearch) (s : Solution) : (q.queryFor s).fault? = q.query.fault? := by
  rw [Search.fault?, Search.fault?, place?_queryFor]
  rfl

/-- What a row finds in a search. -/
def rows (d : Dataset) (r : GraphRef) (q : BoundSearch) (s : Solution) : Multiset Solution :=
  ((q.queryFor s).hits d r).filterMap (q.join? s (q.patternFor s))

/-- For each row it delivers the rows that it finds for it. -/
theorem within_run (hP : ∀ s, P s → s.dataset = d) (g : Engine) {q : BoundSearch} (hfault : q.query.fault? = none)
    (hq : q.query.isRanked = false) (h : Within P mayFail source V) :
    Within P mayFail (q.run g r source) (V.bind (q.rows d r)) := by
  refine g.within_mergeMap (fun s _ => ?_) h
  obtain ⟨hits, hhits⟩ := Search.exists_run ((q.fault?_queryFor s).trans hfault) g r
  have hfound : Within P mayFail hits ((q.queryFor s).hits d r) := Search.within_run (q := q.queryFor s) hP hq hhits
  rw [queryFor] at hhits
  dsimp only
  rw [hhits]
  exact g.within_filterMap _ hfound

end BoundSearch

namespace SearchPlan

/-- What a row finds in the patterns and then in the searches. -/
def rows (d : Dataset) (r : GraphRef) (plan : SearchPlan) (s : Solution) : Multiset Solution :=
  plan.searches.foldl (fun W q => W.bind (q.rows d r)) (r.bgpRows d plan.patterns s)

/-- Going on from each row through some steps is going on from all rows at once. -/
theorem bind_foldl {α : Type} (f : α → Solution → Multiset Solution) (xs : List α) (F : Solution → Multiset Solution)
    (V : Multiset Solution) :
    (V.bind fun s => xs.foldl (fun W x => W.bind (f x)) (F s)) = xs.foldl (fun W x => W.bind (f x)) (V.bind F) := by
  induction xs generalizing F with
  | nil => rfl
  | cons x xs ih =>
    simp only [List.foldl_cons]
    rw [ih fun s => (F s).bind (f x), Multiset.bind_assoc]

/-- Searches that have been planned have no fault. -/
theorem fault?_of_takePatterns {ss : List SearchSetup} {ps : List TriplePattern} {plan : SearchPlan}
    (h : SearchSetup.takePatterns ss ps = .ok plan) : ∀ q ∈ plan.searches, q.query.fault? = none := by
  induction ss generalizing ps plan with
  | nil =>
    rw [← Except.ok.inj h]
    exact List.forall_mem_nil _
  | cons s ss ih =>
    rw [SearchSetup.takePatterns] at h
    split at h
    · cases h
    · obtain ⟨q, hq, h⟩ := exists_of_bind_eq_ok h
      obtain ⟨rest, hrest, h⟩ := exists_of_bind_eq_ok h
      rw [← Except.ok.inj h]
      refine List.forall_mem_cons.2 ⟨?_, ih hrest⟩
      unfold SearchSetup.toSearch at hq
      split at hq
      · obtain ⟨_, hvalid, hq⟩ := exists_of_bind_eq_ok hq
        rw [← Except.ok.inj hq]
        unfold Search.validate at hvalid
        split at hvalid
        · cases hvalid
        · assumption
      · cases hq

/-- Searches with a fault are refused when the patterns are split. -/
theorem fault?_of_ofPatterns {ps : List TriplePattern} {plan : SearchPlan} (h : ofPatterns ps = .ok plan) :
    ∀ q ∈ plan.searches, q.query.fault? = none := by
  obtain ⟨ss, -, h⟩ := exists_of_bind_eq_ok h
  exact fault?_of_takePatterns h

/-- A plan of searches delivers what it finds for each row. -/
theorem within_run (hP : ∀ s, P s → s.dataset = d) {k : Settings} {plan : SearchPlan}
    (hplan : ∀ q ∈ plan.searches, q.query.fault? = none ∧ q.query.isRanked = false)
    (ha : plan.patterns.isEmpty = false → Answered P k d r plan.patterns) (hb : k.hints.batchSize < 2 ^ 64)
    (h : Within P mayFail source V) : Within P mayFail (plan.run k source r) (V.bind (plan.rows d r)) := by
  have hjoined : Within P mayFail (if plan.patterns.isEmpty then source else Join.bound k r plan.patterns source)
      (V.bind (r.bgpRows d plan.patterns)) := by
    have hjoin : V.bind (r.bgpRows d plan.patterns) = Solution.join V (solutions (r.tripleSet d) plan.patterns) := rfl
    rw [hjoin]
    split
    · rename_i hn
      rw [List.isEmpty_iff.1 hn, solutions_nil, join_empty]
      exact h
    · rename_i hn
      exact within_bound (ha (by simpa using hn)) hb h
  have hfold : ∀ (qs : List BoundSearch) (stage : Flow Solution) (W : Multiset Solution),
      (∀ q ∈ qs, q.query.fault? = none ∧ q.query.isRanked = false) → Within P mayFail stage W →
      Within P mayFail (qs.foldl (fun stage q => q.run k.engine r stage) stage)
        (qs.foldl (fun W q => W.bind (q.rows d r)) W) := by
    intro qs
    induction qs with
    | nil => exact fun _ _ _ hstage => hstage
    | cons q qs ih =>
      intro stage W hqs hstage
      obtain ⟨hq, hqs⟩ := List.forall_mem_cons.1 hqs
      exact ih _ _ hqs (BoundSearch.within_run hP k.engine hq.1 hq.2 hstage)
  unfold rows
  rw [bind_foldl]
  exact hfold plan.searches _ _ hplan hjoined

end SearchPlan

/-! ## Graphs with the same triples -/

namespace GraphRef

/-- Nothing but which triples there are matters to a basic graph pattern. -/
theorem tripleSet_perm (h : ∀ t, t ∈ r.triples d ↔ t ∈ r'.triples e) : (r.tripleSet d).Perm (r'.tripleSet e) := by
  refine (List.perm_ext_iff_of_nodup (r.nodup_tripleSet d) (r'.nodup_tripleSet e)).2 fun t => ?_
  rw [tripleSet, tripleSet, mem_firsts, mem_firsts]
  exact h t

/-- The rows of a basic graph pattern depend only on which triples a graph has. -/
theorem bgpRows_congr (h : ∀ t, t ∈ r.triples d ↔ t ∈ r'.triples e) (ps : List TriplePattern) :
    r.bgpRows d ps = r'.bgpRows e ps := by
  funext s
  rw [bgpRows, bgpRows,
    solutions_congr (r.nodup_tripleSet d) (r'.nodup_tripleSet e) fun t => (tripleSet_perm h).mem_iff]

/-- The rows of a path depend only on which triples a graph has. -/
theorem pathRows_congr (h : ∀ t, t ∈ r.triples d ↔ t ∈ r'.triples e) (q : PathPattern) :
    r.pathRows d q = r'.pathRows e q := by
  funext s
  have hperm := PathPattern.solutions_perm h ⟨q.subject.bind s, q.path, q.object.bind s⟩
  exact congrArg (Multiset.filterMap s.merge?) (Multiset.coe_eq_coe.2 hperm)

end GraphRef

/-- The hits of a search depend only on which triples a graph has. -/
theorem Search.hits_congr (h : ∀ t, t ∈ r.triples d ↔ t ∈ r'.triples e) (q : Search) : q.hits d r = q.hits e r' := by
  unfold hits
  split
  · exact Multiset.coe_eq_coe.2 (((GraphRef.tripleSet_perm h).filter _).filterMap _)
  · rfl

/-- The rows of a plan of searches depend only on which triples a graph has. -/
theorem SearchPlan.rows_congr (h : ∀ t, t ∈ r.triples d ↔ t ∈ r'.triples e) (plan : SearchPlan) :
    plan.rows d r = plan.rows e r' := by
  have hsearch : ∀ q : BoundSearch, q.rows d r = q.rows e r' := fun q => funext fun s => by
    rw [BoundSearch.rows, BoundSearch.rows, Search.hits_congr h]
  funext s
  rw [rows, rows, GraphRef.bgpRows_congr h]
  simp only [hsearch]

/-! ## Basic graph patterns with searches -/

namespace Plan

open Build

/-- Each row of a source finds what it finds in the active graph, and then in the searches. -/
theorem means_bgp_unranked (hP : ∀ s, P s → s.dataset = d) {ps : List TriplePattern} {plan : SearchPlan}
    (hactive : ∀ e, c.activeGraph? d = .error e → mayFail)
    (hplan : SearchPlan.ofPatterns (ps.map HiddenVariable.replace) = .ok plan) (hps : SearchPlan.isUnranked ps = true)
    (hanswered : ∀ qs ∈ lookedUp ps, ∀ r, c.Shows d r c.active → Answered P c.settings d r qs)
    (hb : c.settings.hints.batchSize < 2 ^ 64) :
    Means P mayFail c (bgp ps) fun V =>
      (V.bind fun s => c.find d (plan.rows d) s c.active).map (HiddenVariable.hide (HiddenVariable.ofPatterns ps)) := by
  intro source V _ hs st hst
  rw [SearchPlan.isUnranked, hplan] at hps
  have hunranked : ∀ q ∈ plan.searches, q.query.isRanked = false := by simpa using hps
  have hfault := SearchPlan.fault?_of_ofPatterns hplan
  have hjoined : ∀ r source V, c.Shows d r c.active → Within P mayFail source V →
      Within P mayFail (plan.run c.settings source r) (V.bind (plan.rows d r)) := by
    intro r source V hr h
    refine SearchPlan.within_run hP (fun q hq => ⟨hfault q hq, hunranked q hq⟩) (fun hn => hanswered _ ?_ r hr) hb h
    rw [lookedUp, hplan]
    simp [hn]
  rw [bgp, hplan]
  exact (gives_onActiveGraph hP hjoined hactive hs hst).bind fun stage hstage =>
    .pure (within_strip _ hstage)

/-- Without searches each row finds what it finds in the active graph. -/
theorem means_bgp (hP : ∀ s, P s → s.dataset = d) {ps : List TriplePattern}
    (hactive : ∀ e, c.activeGraph? d = .error e → mayFail)
    (hanswered : ∀ qs ∈ lookedUp ps, ∀ r, c.Shows d r c.active → Answered P c.settings d r qs)
    (hb : c.settings.hints.batchSize < 2 ^ 64) (hsearch : ∀ p ∈ ps, SearchPlan.isSearchTriple p = false) :
    Means P mayFail c (bgp ps) fun V =>
      (V.bind ((c.leafRows d).bgp c.active (ps.map HiddenVariable.replace))).map
        (HiddenVariable.hide (HiddenVariable.ofPatterns ps)) := by
  have hplan : SearchPlan.ofPatterns (ps.map HiddenVariable.replace) = .ok ⟨ps.map HiddenVariable.replace, []⟩ := by
    refine Delivers.ofPatterns_eq fun q hq => ?_
    obtain ⟨p, hp, rfl⟩ := List.mem_map.1 hq
    exact hsearch p hp
  have hunranked : SearchPlan.isUnranked ps = true := by
    rw [SearchPlan.isUnranked, hplan]
    rfl
  have hrows : ∀ r : GraphRef, SearchPlan.rows d r ⟨ps.map HiddenVariable.replace, []⟩ =
      r.bgpRows d (ps.map HiddenVariable.replace) := fun _ => rfl
  have hmeans := means_bgp_unranked hP hactive hplan hunranked hanswered hb
  simp only [hrows] at hmeans
  exact hmeans

end Plan

/-! ## Searches that number their hits -/

/-- A list-wise engine finds the triples of one graph after those of the other. -/
theorem GraphRef.yields_find_vectorized (hP : ∀ s, P s → s.dataset = d) (p : TriplePattern) (iris : List Iri) :
    Yields P ((GraphRef.union (iris.map fun iri => .single (.named iri))).find .vectorized p)
      (KeySet.firstsOn id (iris.flatMap fun iri => (d.graph (.named iri)).find p)) := by
  have hall : List.Forall₂ (Yields P) (findAll .vectorized p (iris.map fun iri => .single (.named iri)))
      (iris.map fun iri => (d.graph (.named iri)).find p) := by
    induction iris with
    | nil => exact .nil
    | cons iri iris ih =>
      refine .cons (.read fun s hs => ?_) ih
      rw [hP s hs]
      exact .ofList _
  rw [List.flatMap_def]
  exact Engine.yields_distinct .vectorized id (Vectorized.yields_merge hall)

variable {ts : List Triple} {hits : List Hit} {place : SearchPlace}

namespace Search

/-- Numbered hits are delivered in the order of their numbers. -/
theorem yields_run (g : Engine) {q : Search} (hfault : q.fault? = none) (hplace : q.place? = some place)
    (hq : q.isRanked = true) (h : Yields P (r.find g q.pattern) ts) :
    ∃ stage, q.run g r = .ok stage ∧ Yields P stage (q.rankHits (ts.filterMap (q.score? place))) := by
  have hranked : Yields P (g.rearrange q.rankHits (g.filterMap (q.score? place) (r.find g q.pattern)))
      ([q.rankHits (ts.filterMap (q.score? place))].flatMap id) :=
    g.yields_mergeMap (fun xs _ => .ofList xs)
      (g.yields_map q.rankHits (g.yields_gather (g.yields_filterMap (q.score? place) h)))
  refine ⟨_, by unfold run; simp only [hfault, hplace]; rfl, ?_⟩
  rw [if_pos hq]
  rwa [List.flatMap_singleton] at hranked

/-- Two hits of the same relevance are numbered as they are found. -/
theorem rankHits_pair (q : Search) {h k : Hit} (hsame : Double.order k.relevance h.relevance ≠ .gt) :
    q.rankHits [h, k] = ([(h, 0), (k, 1)].filter fun x => q.acceptsRank x.2).map fun x => { x.1 with rank := x.2 } := by
  rw [rankHits, List.mergeSort_of_pairwise (by simpa using hsame)]
  rfl

end Search

/-- A search with ranks delivers the hits that are ranked for a row, in their order. -/
theorem BoundSearch.yields_run (g : Engine) {q : BoundSearch} {s : Solution} (hfault : q.query.fault? = none)
    (hplace : (q.queryFor s).place? = some place) (hq : q.query.isRanked = true)
    (h : Yields P (r.find g (q.patternFor s)) ts)
    (hhits : (q.queryFor s).rankHits (ts.filterMap ((q.queryFor s).score? place)) = hits) :
    Yields P (q.run g r (.ofList [s])) (hits.filterMap (q.join? s (q.patternFor s))) := by
  obtain ⟨stage, hrun, hstage⟩ :=
    Search.yields_run (q := q.queryFor s) g ((q.fault?_queryFor s).trans hfault) hplace hq h
  rw [hhits] at hstage
  have hone : Yields P (q.run g r (.ofList [s]))
      ([s].flatMap fun _ => hits.filterMap (q.join? s (q.patternFor s))) := by
    refine g.yields_mergeMap (fun t ht => ?_) (.ofList [s])
    obtain rfl := List.mem_singleton.1 ht
    rw [queryFor] at hrun
    dsimp only
    rw [hrun]
    exact g.yields_filterMap _ hstage
  rwa [List.flatMap_singleton] at hone

end SparqlAlgebra

import SparqlAlgebra.Proofs.Plan.KnownRows
import SparqlAlgebra.Proofs.Plan.LeafScope
import SparqlAlgebra.Proofs.Plan.Merging
import SparqlAlgebra.Proofs.Stage.Failures

/-!
# What searches write

A basic graph pattern extends the rows of its source with the solutions of its patterns and with the triples that its
searches find. The relevance and the rank of a hit, however, are set without a look at what their variables are bound
to. So a row that is delivered extends its source row only if the variables for the results of the searches are unbound
there or bound to these very results.
-/

namespace SparqlAlgebra

open Solution Stage

/-! ## What holds of all extensions of a row -/

/-- Whatever a stage delivers is something. -/
theorem Stage.Only.any {σ ε α : Type} (stage : Stage σ ε α) : Only (fun _ => True) (fun _ => True) stage := by
  induction stage with
  | done => exact .done
  | item x rest ih =>
    cases x with
    | ok x => exact .value trivial ih
    | error e => exact .failure ih
  | read next ih => exact .read fun s _ => ih s
  | write s rest ih => exact .write trivial ih

/-- The values among some items are all that the stage of these delivers. -/
theorem Stage.Only.ofItems {σ ε α : Type} {P : σ → Prop} {Q : α → Prop} {items : List (Except ε α)}
    (h : ∀ x, .ok x ∈ items → Q x) : Only P Q (Stage.ofItems items : Stage σ ε α) := by
  induction items with
  | nil => exact .done
  | cons i items ih =>
    have hrest := Only.read fun (s : σ) (_ : P s) => ih fun x hx => h x (List.mem_cons_of_mem i hx)
    cases i with
    | ok x => exact .value (h x List.mem_cons_self) hrest
    | error e => exact .failure hrest

namespace Solution

/-- What holds of a row holds of all of its extensions. -/
def Lasts (Q : Solution → Prop) : Prop := ∀ s u, Q s → Extends u s → Q u

variable {s u a : Solution} {v : Variable} {t : Term}

/-- What extends a solution still does with one more binding on both sides. -/
theorem Extends.insert (h : Extends u a) (v : Variable) (t : Term) : Extends (u.insert v t) (a.insert v t) := by
  intro w x hw
  rw [get?_insert] at hw ⊢
  split
  · rwa [if_pos ‹_›] at hw
  · rw [if_neg ‹_›] at hw
    exact h w x hw

/-- Everything extends the empty solution. -/
theorem extends_empty (u : Solution) : Extends u .empty := fun v t hv => by simp at hv

/-- A variable that is unbound may be bound to any term. -/
theorem extends_insert (h : s.get? v = none) (t : Term) : Extends (s.insert v t) s := by
  intro w x hw
  rw [get?_insert]
  split
  · rename_i hv
    rw [hv, h] at hw
    cases hw
  · exact hw

end Solution

variable {Q : Solution → Prop} {source : Flow Solution}

namespace Join

variable {c : Settings} {r : GraphRef} {ps : List TriplePattern}

/-- Rows that are joined with patterns are extended. -/
theorem only_nested_of_lasts (hQ : Lasts Q) (hs : Stage.Only (fun _ => True) Q source) :
    Stage.Only (fun _ => True) Q (nested c r ps source) := by
  refine c.engine.only_mergeMap (fun s hs => ?_) hs
  split
  · rename_i hempty
    obtain rfl := isEmpty_iff.1 hempty
    exact (Only.any _).mono fun u _ => hQ .empty u hs (extends_empty u)
  · exact c.engine.only_filterMap (fun m _ u hu => hQ s u hs (extends_of_merge? hu).1) (Only.any _)

/-- The rows of a batch have a property that lasts under merges with solutions. -/
theorem only_batch_of_lasts (hQ : Lasts Q) {rows : List Solution} (hrows : Each Q rows) :
    Stage.Only (fun _ => True) Q (batch c r ps rows) := by
  unfold batch
  split
  · rename_i hempty
    have hQempty : Q .empty := hrows .empty (by rw [hempty]; exact List.mem_cons_self)
    exact (Only.any _).mono fun u _ => hQ .empty u hQempty (extends_empty u)
  · refine c.engine.only_merge fun f hf => ?_
    rcases List.mem_append.1 hf with hf | hf
    · obtain ⟨s, hs, hf⟩ := List.mem_filterMap.1 hf
      dsimp only at hf
      split at hf
      · rw [← Option.some.inj hf]
        exact c.engine.only_filterMap (fun m _ u hu => hQ s u (hrows s hs) (extends_of_merge? hu).1) (Only.any _)
      · cases hf
    · split at hf
      · cases hf
      · rw [List.mem_singleton.1 hf]
        refine c.engine.only_filterMap (fun m _ u hu => ?_) (Only.any _)
        obtain ⟨⟨i, n⟩, -, hu⟩ := Option.bind_eq_some_iff.1 hu
        obtain ⟨x, hx, hu⟩ := Option.bind_eq_some_iff.1 hu
        have hmem : x.1 ∈ rows :=
          List.fst_mem_of_mem_zipIdx (List.mem_filter.1 (List.mem_of_find?_eq_some hx)).1
        exact hQ x.1 u (hrows x.1 hmem) (extends_of_merge? hu).1

/-- The rows of a bound join have a property that lasts under merges with solutions. -/
theorem only_bound_of_lasts (hQ : Lasts Q) (hs : Stage.Only (fun _ => True) Q source) :
    Stage.Only (fun _ => True) Q (bound c r ps source) := by
  refine .read fun s _ => ?_
  split
  · exact c.engine.only_mergeMap (fun rows hrows => only_batch_of_lasts hQ hrows) (c.engine.only_buffer _ hs)
  · exact only_nested_of_lasts hQ hs

end Join

/-! ## Hits and their results -/

/-- Whether a search can have a hit: its text is relevant, and its rank is one within the bounds, or minus one if there
are no bounds. -/
def Search.IsHit (q : Search) (h : Hit) : Prop :=
  (∃ place, q.place? = some place ∧ q.score? place h.triple = some { h with rank := -1 }) ∧
    if q.isRanked then ∃ n : Nat, h.rank = n ∧ q.acceptsRank n = true else h.rank = -1

/-- What a search finds are hits of it. -/
theorem Search.only_isHit {P : Store → Prop} {g : Engine} {r : GraphRef} {q : Search} {hits : Flow Hit}
    (h : q.run g r = .ok hits) : Stage.Only P q.IsHit hits := by
  unfold run at h
  split at h
  · cases h
  · cases h
  · rename_i place _ hplace
    rw [← Except.ok.inj h]
    have hscored : Stage.Only P (fun h => q.score? place h.triple = some h ∧ h.rank = -1)
        (g.filterMap (q.score? place) (r.find g q.pattern)) := by
      refine g.only_filterMap (fun t _ h ht => ?_) (r.only_find g q.pattern)
      obtain ⟨text, -, hhit⟩ := Option.bind_eq_some_iff.1 ht
      dsimp only at hhit
      split at hhit
      · obtain rfl := Option.some.inj hhit
        exact ⟨ht, rfl⟩
      · cases hhit
    unfold IsHit
    split
    · refine g.only_rearrange (fun hs hhs h hh => ?_) hscored
      obtain ⟨⟨k, n⟩, hk, rfl⟩ := List.mem_map.1 hh
      obtain ⟨hk, hn⟩ := List.mem_filter.1 hk
      obtain ⟨hscore, hrank⟩ := hhs k (List.mem_mergeSort.1 (List.fst_mem_of_mem_zipIdx hk))
      refine ⟨⟨place, hplace, ?_⟩, n, rfl, hn⟩
      dsimp only
      rw [hscore, ← hrank]
    · refine hscored.mono fun h hh => ⟨⟨place, hplace, ?_⟩, hh.2⟩
      rw [hh.1, ← hh.2]

namespace BoundSearch

variable {q : BoundSearch} {s u a : Solution} {h : Hit} {v : Variable}

/-- With a row put in, a search has the same hits. -/
theorem isHit_queryFor (q : BoundSearch) (s : Solution) (h : Hit) : (q.queryFor s).IsHit h ↔ q.query.IsHit h := by
  unfold Search.IsHit
  rw [place?_queryFor]
  rfl

/-- Setting the results keeps what a row extends. -/
theorem extends_bindResults (q : BoundSearch) (h : Hit) (hua : Extends u a) :
    Extends (q.bindResults h u) (q.bindResults h a) := by
  unfold bindResults
  cases q.relevance with
  | none =>
    cases q.rank with
    | none => exact hua
    | some w => exact hua.insert w _
  | some v =>
    cases q.rank with
    | none => exact hua.insert v _
    | some w => exact (hua.insert v _).insert w _

/-- No other variables are set. -/
theorem get?_bindResults (hv : v ∉ q.results) : (q.bindResults h s).get? v = s.get? v := by
  rw [results, List.mem_append, not_or, Option.mem_toList, Option.mem_toList] at hv
  unfold bindResults
  cases hrelevance : q.relevance with
  | none =>
    cases hrank : q.rank with
    | none => rfl
    | some w =>
      have hw : v ≠ w := fun heq => hv.2 (by rw [hrank, heq])
      simp [hw]
  | some x =>
    have hx : v ≠ x := fun heq => hv.1 (by rw [hrelevance, heq])
    cases hrank : q.rank with
    | none => simp [hx]
    | some w =>
      have hw : v ≠ w := fun heq => hv.2 (by rw [hrank, heq])
      simp [hx, hw]

/-- A variable that is bound stays bound. -/
theorem binds_bindResults (hv : s.binds v = true) : (q.bindResults h s).binds v = true := by
  have hinsert : ∀ {s : Solution} (w : Variable) (t : Term), s.binds v = true → (s.insert w t).binds v = true :=
    fun w t hs => (binds_insert _ w t v).2 (.inl hs)
  unfold bindResults
  cases q.relevance with
  | none =>
    cases q.rank with
    | none => exact hv
    | some w => exact hinsert w _ hv
  | some x =>
    cases q.rank with
    | none => exact hinsert x _ hv
    | some w => exact hinsert w _ (hinsert x _ hv)

end BoundSearch

namespace SearchPlan

variable {S : Solution → Prop} {found : List (BoundSearch × Hit)} {m u : Solution} {v : Variable} {g : Engine}
  {r : GraphRef}

/-- A row with the results of some hits, set one after the other. -/
def setResults (found : List (BoundSearch × Hit)) (m : Solution) : Solution :=
  found.foldl (fun s x => x.1.bindResults x.2 s) m

/-- The results of one more hit are set last. -/
theorem setResults_append (found : List (BoundSearch × Hit)) (x : BoundSearch × Hit) (m : Solution) :
    setResults (found ++ [x]) m = x.1.bindResults x.2 (setResults found m) := by
  rw [setResults, List.foldl_append]
  rfl

/-- Setting results leaves the other variables as they are. -/
theorem get?_setResults (hv : ∀ x ∈ found, v ∉ x.1.results) : (setResults found m).get? v = m.get? v := by
  induction found generalizing m with
  | nil => rfl
  | cons x found ih =>
    obtain ⟨hx, hfound⟩ := List.forall_mem_cons.1 hv
    rw [setResults, List.foldl_cons]
    exact (ih hfound).trans (BoundSearch.get?_bindResults hx)

/-- Setting results takes no binding away. -/
theorem binds_setResults (found : List (BoundSearch × Hit)) (hv : m.binds v = true) :
    (setResults found m).binds v = true := by
  induction found generalizing m with
  | nil => exact hv
  | cons x found ih =>
    rw [setResults, List.foldl_cons]
    exact ih (BoundSearch.binds_bindResults hv)

/-- Whether a row extends a row of the source in which the results of one hit for each search have been set. -/
def Traced (S : Solution → Prop) (qs : List BoundSearch) (u : Solution) : Prop :=
  ∃ m, S m ∧ ∃ found : List (BoundSearch × Hit),
    found.map Prod.fst = qs ∧ (∀ x ∈ found, x.1.query.IsHit x.2) ∧ Extends u (setResults found m)

/-- Having been found by some searches lasts under merges with solutions. -/
theorem lasts_traced (S : Solution → Prop) (qs : List BoundSearch) : Lasts (Traced S qs) := by
  rintro s u ⟨m, hm, found, hqs, hhits, hs⟩ hu
  exact ⟨m, hm, found, hqs, hhits, hu.trans hs⟩

/-- One search traces its rows to one more hit. -/
theorem only_run_traced {qs : List BoundSearch} {q : BoundSearch} (hs : Stage.Only (fun _ => True) (Traced S qs) source) :
    Stage.Only (fun _ => True) (Traced S (qs ++ [q])) (q.run g r source) := by
  refine g.only_mergeMap (fun s hs => ?_) hs
  obtain ⟨m, hm, found, hqs, hhits, hext⟩ := hs
  dsimp only
  split
  · rename_i hits hrun
    refine g.only_filterMap (fun h hh u hu => ?_) (Search.only_isHit (q := q.queryFor s) hrun)
    obtain ⟨t, ht, rfl⟩ := Option.map_eq_some_iff.1 hu
    obtain ⟨b, -, hmerge⟩ := Option.bind_eq_some_iff.1 ht
    refine ⟨m, hm, found ++ [(q, h)], by rw [List.map_append, hqs]; rfl, ?_, ?_⟩
    · rw [List.forall_mem_append, List.forall_mem_singleton]
      exact ⟨hhits, (q.isHit_queryFor s h).1 hh⟩
    · rw [setResults_append]
      exact q.extends_bindResults h ((extends_of_merge? hmerge).1.trans hext)
  · exact .fail _

/-- All searches together trace their rows to one hit each. -/
theorem only_run_of_source {k : Settings} (plan : SearchPlan) (hS : Stage.Only (fun _ => True) (Traced S []) source) :
    Stage.Only (fun _ => True) (Traced S plan.searches) (plan.run k source r) := by
  have hjoined : Stage.Only (fun _ => True) (Traced S [])
      (if plan.patterns.isEmpty then source else Join.bound k r plan.patterns source) := by
    split
    · exact hS
    · exact Join.only_bound_of_lasts (lasts_traced S []) hS
  have hfold : ∀ (qs done : List BoundSearch) (stage : Flow Solution),
      Stage.Only (fun _ => True) (Traced S done) stage →
      Stage.Only (fun _ => True) (Traced S (done ++ qs)) (qs.foldl (fun stage q => q.run k.engine r stage) stage) := by
    intro qs
    induction qs with
    | nil =>
      intro done stage hstage
      rwa [List.append_nil]
    | cons q qs ih =>
      intro done stage hstage
      rw [List.append_cons]
      exact ih (done ++ [q]) _ (only_run_traced hstage)
  exact hfold plan.searches [] _ hjoined

end SearchPlan

/-! ## Rows that are delivered -/

/-- What is delivered in an active graph comes of the rows of the source, with the graph bound where they name one. -/
theorem Scope.only_onActiveGraph_of_lasts {c : Scope} {R : Solution → Prop}
    {evaluate : Flow Solution → GraphRef → Flow Solution} (hQ : Lasts Q)
    (he : ∀ r source, Stage.Only (fun _ => True) Q source → Stage.Only (fun _ => True) R (evaluate source r))
    (hs : Stage.Only (fun _ => True) Q source) :
    Build.Only (fun _ => True) (Stage.Only (fun _ => True) R) (c.onActiveGraph source evaluate) := by
  refine Build.Only.get.bind fun st _ => ?_
  split
  · exact .throw _
  · exact .pure (he _ source hs)
  · rename_i v _ _
    refine .pure (c.engine.only_mergeMap (fun s hs => .read fun st _ => ?_) hs)
    split
    · split
      · exact he _ _ (.ofList (.cons hs .nil))
      · exact .done
    · exact .done
    · rename_i hv
      refine c.engine.only_merge (List.forall_mem_map.2 fun iri _ => ?_)
      exact he _ _ (.ofList (.cons (hQ s _ hs (extends_insert hv _)) .nil))
  · exact .throw _

/-- Hiding variables hides them in each row. -/
theorem HiddenVariable.only_strip_hide {P : Store → Prop} {g : Engine} {hidden : List Variable} {stage : Flow Solution}
    (h : Stage.Only P Q stage) : Stage.Only P (fun row => ∃ u, Q u ∧ row = hide hidden u) (strip g hidden stage) := by
  unfold strip
  split
  · rename_i hnone
    refine h.mono fun u hu => ⟨u, hu, ?_⟩
    rw [List.isEmpty_iff.1 hnone, hide_nil]
  · exact g.only_map (fun u hu => ⟨u, hu, rfl⟩) h

namespace Pattern

variable {c : Scope} {st : Store} {ps : List TriplePattern} {plan : SearchPlan} {row : Solution}

/-- The rows of a basic graph pattern are traced to the rows of its source. -/
theorem only_later_bgp (hplan : SearchPlan.ofPatterns (ps.map HiddenVariable.replace) = .ok plan) (c : Scope)
    (items : List (Except QueryError Solution)) :
    Stage.Only (fun _ => True)
      (fun row => ∃ u, SearchPlan.Traced (fun m => .ok m ∈ items) plan.searches u ∧
        row = HiddenVariable.hide (HiddenVariable.ofPatterns ps) u)
      (Plan.later ((Pattern.bgp ps).plan c (.ofItems items))) := by
  have hsource : Stage.Only (fun _ => True) (SearchPlan.Traced (fun m => .ok m ∈ items) [])
      (.ofItems items : Flow Solution) :=
    .ofItems fun m hm => ⟨m, hm, [], rfl, List.forall_mem_nil _, .refl m⟩
  rw [Pattern.plan, Plan.bgp, hplan]
  exact Plan.only_later <|
    (Scope.only_onActiveGraph_of_lasts (SearchPlan.lasts_traced _ [])
      (fun r source hs => plan.only_run_of_source hs) hsource).bind
      fun stage hstage => .pure (HiddenVariable.only_strip_hide hstage)

/-- A row that is delivered comes of a source row and one hit of each search. It extends the source row with the results
of these hits set in it, one after the other, so that it keeps all terms of the source row but those of variables for
results. Hence it extends the source row itself just if these variables are bound there to the very results, as far as
they are bound at all. -/
theorem bgp_extends_but_for_results (hplan : SearchPlan.ofPatterns (ps.map HiddenVariable.replace) = .ok plan)
    {items : List (Except QueryError Solution)}
    (hrow : .ok row ∈ ((Plan.later ((Pattern.bgp ps).plan c (.ofItems items))).run st).1) :
    ∃ (m : Solution) (found : List (BoundSearch × Hit)), .ok m ∈ items ∧ found.map Prod.fst = plan.searches ∧
      (∀ x ∈ found, x.1.query.IsHit x.2) ∧
      row.Extends (HiddenVariable.hide (HiddenVariable.ofPatterns ps) (SearchPlan.setResults found m)) ∧
      (∀ v t, v ∉ HiddenVariable.ofPatterns ps → v ∉ plan.results → m.get? v = some t → row.get? v = some t) ∧
      (row.Extends (HiddenVariable.hide (HiddenVariable.ofPatterns ps) m) ↔
        ∀ v t, v ∉ HiddenVariable.ofPatterns ps → v ∈ plan.results → m.get? v = some t →
          (SearchPlan.setResults found m).get? v = some t) := by
  obtain ⟨u, ⟨m, hm, found, hqs, hhits, hext⟩, rfl⟩ := ((only_later_bgp hplan c items).run trivial).1 row hrow
  have hshown : ∀ v t, v ∉ HiddenVariable.ofPatterns ps → (SearchPlan.setResults found m).get? v = some t →
      (HiddenVariable.hide (HiddenVariable.ofPatterns ps) u).get? v = some t := by
    intro v t hv ht
    rw [HiddenVariable.get?_hide, if_neg hv]
    exact hext v t ht
  have hkept : ∀ v t, v ∉ HiddenVariable.ofPatterns ps → v ∉ plan.results → m.get? v = some t →
      (HiddenVariable.hide (HiddenVariable.ofPatterns ps) u).get? v = some t := by
    intro v t hv hresults ht
    refine hshown v t hv ((SearchPlan.get?_setResults fun x hx hmem => hresults ?_).trans ht)
    have hsearch : x.1 ∈ plan.searches := hqs ▸ List.mem_map_of_mem hx
    exact List.mem_flatMap.2 ⟨x.1, hsearch, hmem⟩
  refine ⟨m, found, hm, hqs, hhits, fun v t hv => ?_, hkept, fun h v t hv _ ht => ?_, fun h v t hv => ?_⟩
  · rw [HiddenVariable.get?_hide] at hv
    split at hv
    · cases hv
    · exact hshown v t ‹_› hv
  · obtain ⟨x, hx⟩ := binds_iff.1 (SearchPlan.binds_setResults found (binds_iff.2 ⟨t, ht⟩))
    have hrow := h v t (by rw [HiddenVariable.get?_hide, if_neg hv, ht])
    rw [hx, ← hshown v x hv hx, hrow]
  · rw [HiddenVariable.get?_hide] at hv
    split at hv
    · cases hv
    · by_cases hresults : v ∈ plan.results
      · exact hshown v t ‹_› (h v t ‹_› hresults hv)
      · exact hkept v t ‹_› hresults hv

/-- A search for cats sets the relevance of its hit, although the source row binds the variable to another term. -/
theorem bgp_extends_but_for_results_bound :
    let label : Iri := ⟨"http://example.com/label"⟩
    let x : Variable := ⟨"x"⟩
    let y : Variable := ⟨"y"⟩
    let score : Variable := ⟨"score"⟩
    let cat : Term := .literal (.string "cat")
    let alice : Iri := ⟨"http://example.com/a"⟩
    let graph : Graph := (Graph.empty defaultGraphIri ⟨true, true⟩).insert ⟨.iri alice, label, cat⟩
    let st : Store := ⟨⟨graph, [], fun _ => ⟨true, true⟩⟩, none, 0⟩
    let c : Scope := ⟨⟨.streaming, ⟨2, .structural, true⟩⟩, ⟨[], cat⟩, .default, none⟩
    let ps : List TriplePattern := [⟨.var x, .iri label, .var y⟩, ⟨.var y, .iri SearchVocabulary.search, .term cat⟩,
      ⟨.var y, .iri SearchVocabulary.relevance, .var score⟩]
    let search : BoundSearch :=
      ⟨⟨⟨.var x, .iri label, .var y⟩, y, ["cat"], false, none, none, none, none⟩, some score, none⟩
    let m : Solution := Solution.empty.insert score (.literal (.string "7"))
    let one : Term := .literal (Numeric.double (Binary.ofInt 1)).toLiteral
    let row : Solution := ((m.insert x (.iri alice)).insert y cat).insert score one
    SearchPlan.ofPatterns (ps.map HiddenVariable.replace) = .ok ⟨[], [search]⟩ ∧
      .ok row ∈ ((Plan.later ((Pattern.bgp ps).plan c (.ofItems [.ok m]))).run st).1 ∧
      ∃ h, search.query.IsHit h ∧ row.Extends (search.bindResults h m) ∧ ¬ row.Extends m := by
  intro label x y score cat alice graph st c ps search m one row
  have hplan : SearchPlan.ofPatterns (ps.map HiddenVariable.replace) = .ok ⟨[], [search]⟩ := by decide +kernel
  have hrow : .ok row ∈ ((Plan.later ((Pattern.bgp ps).plan c (.ofItems [.ok m]))).run st).1 := by decide +kernel
  refine ⟨hplan, hrow, ?_⟩
  obtain ⟨n, found, hn, hfound, hhits, hextends, -⟩ := bgp_extends_but_for_results hplan hrow
  obtain rfl : n = m := Except.ok.inj (List.mem_singleton.1 hn)
  obtain ⟨⟨q, h⟩, rfl, rfl⟩ := List.map_eq_singleton_iff.1 hfound
  refine ⟨h, hhits _ List.mem_cons_self, ?_, fun hkeeps => ?_⟩
  · rw [← HiddenVariable.hide_nil (search.bindResults h m)]
    exact hextends
  · exact absurd (hkeeps score (.literal (.string "7")) (by decide)) (by decide +kernel)

end Pattern

end SparqlAlgebra

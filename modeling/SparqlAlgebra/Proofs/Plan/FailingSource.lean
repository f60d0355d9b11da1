import SparqlAlgebra.Proofs.Plan.Merging
import SparqlAlgebra.Proofs.Stage.Delivers

/-!
# Plans over sources that fail

A source that fails among its items makes what is built over it fail: neither batches nor a merge of the rows so far get
around the failure, whichever engine runs them.
-/

namespace SparqlAlgebra

open Solution Stage Join

variable {P : Store → Prop} {c : Scope} {d : Dataset} {r : GraphRef} {st : Store} {source : Flow Solution}

namespace Stage

variable {σ ε α β : Type} {R : σ → Prop} {stage : Stage σ ε α}

/-- A failure among its items makes a stage fail. -/
theorem fails_ofItems {items : List (Except ε α)} {e : ε} (h : .error e ∈ items) :
    Fails R (ofItems items : Stage σ ε α) := by
  induction items with
  | nil => cases h
  | cons x items ih =>
    cases x with
    | error y => exact .failure y _
    | ok x =>
      have hrest := ih ((List.mem_cons.1 h).resolve_left nofun)
      exact .item (.read fun _ _ => hrest)

/-- A callback that delivers something for each value hands a failure of the source on. -/
theorem Fails.mergeMap (g : Engine) {f : α → Stage σ ε β} (hf : ∀ x, ∃ ys, Yields R (f x) ys) (h : Fails R stage) :
    Fails R (g.mergeMap f stage) := by
  choose w hw using hf
  exact g.delivers_mergeMap (v := none) (w := fun x => some (w x)) (fun x _ => hw x) h

/-! Where a failure comes from every state, it does not matter what has been delivered or written before. -/

/-- A failure after other items is a failure of the whole. -/
theorem Fails.append_of_fails {after : Stage σ ε α} (before : Stage σ ε α) (h : Fails (fun _ => True) after) :
    Fails (fun _ => True) (before.append after) := by
  induction before with
  | done => exact h
  | item x _ ih =>
    cases x with
    | error e => exact .failure e _
    | ok x => exact .item ih
  | read _ ih => exact .read fun s _ => ih s
  | write _ _ ih => exact .write trivial ih

/-- So any callback hands such a failure of the source on. -/
theorem Fails.mergeMap_any (g : Engine) (f : α → Stage σ ε β) (h : Fails (fun _ => True) stage) :
    Fails (fun _ => True) (g.mergeMap f stage) := by
  cases g with
  | vectorized => exact Vectorized.delivers_materialize (v := none) (w := fun _ => none) (fun _ hv => nomatch hv) h
  | streaming =>
    induction h with
    | failure e rest => exact .failure e _
    | item _ ih => exact .append_of_fails _ ih
    | read _ ih => exact .read ih
    | write hs _ ih => exact .write hs ih

end Stage

/-- A bound join fails where its source fails, whatever has been put into batches before. -/
theorem Join.fails_bound {s : Settings} {ps : List TriplePattern} (ha : Answered P s d r ps) (h : Fails P source) :
    Fails P (bound s r ps source) := by
  refine .read fun t ht => ?_
  rw [ha.dataset t ht]
  split
  · exact Fails.mergeMap s.engine (fun rows => (yields_batch_of_length ha rows).imp fun _ hy => hy.1)
      (s.engine.delivers_buffer (v := none) s.hints.batchSize h)
  · exact Fails.mergeMap s.engine (fun x => (yields_single ha x).imp fun _ hy => hy.1) h

/-- A path over a source that fails fails. -/
theorem PathPattern.fails_run (q : PathPattern) (hP : ∀ s, P s → s.dataset = d) (g : Engine) (h : Fails P source) :
    Fails P (q.run g r source) := by
  refine Fails.mergeMap g (fun s => ?_) h
  refine ⟨((Path.solutions (r.triples d) (q.subject.bind s) q.path (q.object.bind s)).filterMap s.merge?),
    .read fun st hst => ?_⟩
  rw [hP st hst]
  exact g.yields_filterMap _ (.ofList _)

/-- Hiding variables hides no failure. -/
theorem HiddenVariable.fails_strip (g : Engine) (vs : List Variable) (h : Fails P source) :
    Fails P (HiddenVariable.strip g vs source) := by
  unfold HiddenVariable.strip
  split
  · exact h
  · exact g.delivers_map (v := none) _ h

namespace Plan

open Build

/-- A plan is built over a source that fails, and hands the failure on. -/
def HandsOn (P : Store → Prop) (c : Scope) (p : Plan) : Prop :=
  ∀ source, Fails P source → ∀ st, P st → Gives False st (Fails P) (p c source)

/-- Collecting what hands a failure on ends with one. -/
theorem HandsOn.collect {p : Plan} (h : HandsOn P c p) (hs : Fails P source) (hst : P st) :
    ∃ e, ((p c source >>= Plan.collect).run st).1 = .error e := by
  obtain ⟨stage, hstage, hfails⟩ := (h source hs st hst).exists_ok
  obtain ⟨e, t, -, he⟩ := hfails.collect hst
  refine ⟨e, ?_⟩
  rw [run_bind_ok hstage]
  exact congrArg Prod.fst he

/-- A join hands on the failures that both parts hand on. -/
theorem handsOn_join {a b : Plan} (ha : HandsOn P c a) (hb : HandsOn P c b) : HandsOn P c (join a b) :=
  fun source hs st hst => (ha source hs st hst).bind fun stage hstage => hb stage hstage st hst

/-- In an active graph that does not depend on the row a leaf hands failures on if its evaluation there does. -/
theorem gives_fails_onActiveGraph (hr : c.activeGraph? st.dataset = .ok (some r))
    {evaluate : Flow Solution → GraphRef → Flow Solution} (vs : List Variable)
    (he : Fails P (evaluate source r)) :
    Gives False st (Fails P) do
      let stage ← c.onActiveGraph source evaluate
      return HiddenVariable.strip c.engine vs stage := by
  unfold Gives
  rw [run_bind_ok (Scope.run_onActiveGraph hr)]
  exact ⟨rfl, HiddenVariable.fails_strip _ vs he⟩

/-- A path hands failures on. -/
theorem handsOn_path (hP : ∀ s, P s → s.dataset = d) (hr : c.activeGraph? d = .ok (some r)) (q : PathPattern) :
    HandsOn P c (paths [q]) := by
  intro source hs st hst
  rw [← hP st hst] at hr
  exact gives_fails_onActiveGraph hr _ (q.hide.fails_run hP c.engine hs)

/-- A basic graph pattern without searches hands failures on. -/
theorem handsOn_bgp (hP : ∀ s, P s → s.dataset = d) {ps : List TriplePattern} (hr : c.activeGraph? d = .ok (some r))
    (hanswered : ∀ qs ∈ lookedUp ps, ∀ r, c.Shows d r c.active → Answered P c.settings d r qs)
    (hsearch : ∀ p ∈ ps, SearchPlan.isSearchTriple p = false) : HandsOn P c (bgp ps) := by
  have hplan : SearchPlan.ofPatterns (ps.map HiddenVariable.replace) = .ok ⟨ps.map HiddenVariable.replace, []⟩ := by
    refine Delivers.ofPatterns_eq fun q hq => ?_
    obtain ⟨p, hp, rfl⟩ := List.mem_map.1 hq
    exact hsearch p hp
  intro source hs st hst
  have hshows := Scope.shows_of_activeGraph? hr
  rw [← hP st hst] at hr
  rw [bgp, hplan]
  refine gives_fails_onActiveGraph hr _ ?_
  rw [SearchPlan.run, List.foldl_nil]
  dsimp only
  split
  · exact hs
  · rename_i hne
    refine Join.fails_bound (hanswered _ ?_ r hshows) hs
    rw [lookedUp, hplan]
    simp [hne]

/-! ## Failures from any state -/

/-- Searches hand on a failure of what they are made for. -/
theorem fails_run_any (plan : SearchPlan) (k : Settings) (r : GraphRef) (h : Fails (fun _ => True) source) :
    Fails (fun _ => True) (plan.run k source r) := by
  have hjoined : Fails (fun _ => True)
      (if plan.patterns.isEmpty then source else Join.bound k r plan.patterns source) := by
    split
    · exact h
    · refine .read fun st _ => ?_
      split
      · exact .mergeMap_any k.engine _ (k.engine.delivers_buffer (v := none) k.hints.batchSize h)
      · exact .mergeMap_any k.engine _ h
  unfold SearchPlan.run
  generalize (if plan.patterns.isEmpty then source else Join.bound k r plan.patterns source) = joined at hjoined
  dsimp only
  induction plan.searches generalizing joined with
  | nil => exact hjoined
  | cons q qs ih => exact ih _ (.mergeMap_any k.engine _ hjoined)

/-- In whatever graph is active, a basic graph pattern over such a source is refused, or it fails as well. -/
theorem gives_fails_bgp (ps : List TriplePattern) (h : Fails (fun _ => True) source) :
    Gives True st (Fails fun _ => True) (bgp ps c source) := by
  unfold bgp
  cases SearchPlan.ofPatterns (ps.map HiddenVariable.replace) with
  | error e => exact .throw e trivial
  | ok plan =>
    refine Gives.bind (Q := Fails fun _ => True) ?_ fun stage hstage => .pure (HiddenVariable.fails_strip _ _ hstage)
    refine gives_get.bind fun s _ => ?_
    split
    · exact .throw _ trivial
    · exact .pure (fails_run_any plan c.settings _ h)
    · exact .pure (.mergeMap_any c.engine _ h)
    · exact .throw _ trivial

/-- Collecting a stage that fails ends with a failure. -/
theorem collect_fails {b : Build (Flow Solution)} (h : Gives True st (Fails fun _ => True) b) :
    ∃ e, ((b >>= collect).run st).1 = .error e := by
  unfold Gives at h
  rw [Build.run_bind]
  rcases hb : b.run st with ⟨e | stage, t⟩
  · exact ⟨e, rfl⟩
  · rw [hb] at h
    obtain ⟨e, _, -, he⟩ := Fails.collect h.2 (s := t) trivial
    exact ⟨e, congrArg Prod.fst he⟩

end Plan

/-- Nothing is collected for a basic graph pattern over such a source, whatever is active and whatever has been kept. -/
theorem Pattern.exists_error_bgp (ps : List TriplePattern) (c : Scope) (st : Store) (h : Fails (fun _ => True) source) :
    ∃ e, (Pattern.bgp ps).solveOver c st source = .error e := by
  rw [solveOver, plan]
  exact Plan.collect_fails (Plan.gives_fails_bgp ps h)

end SparqlAlgebra

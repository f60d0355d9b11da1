import SparqlAlgebra.Proofs.Algebra.Meaning
import SparqlAlgebra.Proofs.Join.Batch
import SparqlAlgebra.Proofs.Path.Solutions
import SparqlAlgebra.Proofs.Plan.Build

/-!
# Plans deliver joins with the meaning

A plan never joins two bags: it hands the solutions of its source to its parts, which fill them into their patterns.
For the patterns that have a meaning of their own the result is the join of the source with that meaning,
however deep they are nested; building the plan fails nowhere and leaves the store as it is.
-/

namespace SparqlAlgebra

open Solution Stage Join

variable {c : Scope} {d : Dataset} {r : GraphRef} {source : Flow Solution} {rows : List Solution}

/-- A plan is built without a failure, and its stage delivers the join of the source with a bag. -/
def Delivers (c : Scope) (d : Dataset) (p : Plan) (A : Multiset Solution) : Prop :=
  ∀ (source : Flow Solution) (rows : List Solution),
    Yields (CacheOff c.settings d) source rows → (∀ s ∈ rows, s.Plain) →
      ∃ stage, (∀ st, CacheOff c.settings d st → (p c source).run st = (.ok stage, st)) ∧
        ∃ out, Yields (CacheOff c.settings d) stage out ∧ (out : Multiset Solution) = join rows A

namespace Delivers

variable {a b p : Plan} {A B : Multiset Solution}

/-- Joins with bags of plain solutions are plain. -/
theorem plain_join (hA : ∀ s ∈ A, s.Plain) (hB : ∀ s ∈ B, s.Plain) : ∀ s ∈ join A B, s.Plain := by
  intro s hs
  obtain ⟨x, hx, y, hy, hm⟩ := mem_join.1 hs
  intro v hv
  exact ((binds_of_merge? hm).1 hv).elim (hA x hx v) (hB y hy v)

/-- A join delivers the join of what its parts deliver. -/
theorem join (ha : Delivers c d a A) (hb : Delivers c d b B) (hA : ∀ s ∈ A, s.Plain) :
    Delivers c d (Plan.join a b) (Solution.join A B) := by
  intro source rows hs hrows
  obtain ⟨left, hleft, xs, hx, hxm⟩ := ha source rows hs hrows
  have hxs : ∀ s ∈ xs, s.Plain := by
    intro s hs
    have hmem : s ∈ Solution.join rows A := by
      rw [← hxm]
      exact hs
    exact plain_join hrows hA s hmem
  obtain ⟨stage, hstage, out, ho, hom⟩ := hb left xs hx hxs
  refine ⟨stage, fun st hst => ?_, out, ho, ?_⟩
  · exact (Build.run_bind_ok (hleft st hst)).trans (hstage st hst)
  · rw [hom, hxm, join_assoc]

/-- A plan that can be built is valid, and trying that leaves the store alone. -/
theorem validate (ha : Delivers c d a A) {st : Store} (hst : CacheOff c.settings d st) :
    (Plan.validate a c).run st = (.ok (), st) := by
  obtain ⟨stage, hstage, -⟩ := ha .done [] .done (by simp)
  exact Build.run_bind_ok (hstage st hst)

/-- A union delivers what both parts deliver. -/
theorem union (ha : Delivers c d a A) (hb : Delivers c d b B) : Delivers c d (Plan.union a b) (A + B) := by
  have hrow : ∀ s : Solution, s.Plain → ∃ out,
      Yields (CacheOff c.settings d)
        (Stage.act fun st => (c.engine.merge (Plan.forEach c s [a, b] st).1, (Plan.forEach c s [a, b] st).2)) out ∧
      (out : Multiset Solution) = (A + B).filterMap s.merge? := by
    intro s hs
    have hsingle : ∀ x ∈ [s], x.Plain := by
      intro x hx
      rwa [List.mem_singleton.1 hx]
    obtain ⟨left, hleft, xs, hx, hxm⟩ := ha (.ofList [s]) [s] (.ofList [s]) hsingle
    obtain ⟨right, hright, ys, hy, hym⟩ := hb (.ofList [s]) [s] (.ofList [s]) hsingle
    obtain ⟨out, ho, hperm⟩ := c.engine.yields_merge (.cons hx (.cons hy .nil))
    refine ⟨out, .act fun st hst => ?_, ?_⟩
    · have hboth : Plan.forEach c s [a, b] st = ([left, right], st) := by
        rw [Plan.forEach_cons, Plan.now_ok (hleft st hst), Plan.forEach_cons, Plan.now_ok (hright st hst)]
        rfl
      rw [hboth]
      exact ⟨ho, hst⟩
    · rw [Multiset.coe_eq_coe.2 hperm, List.flatten_cons, List.flatten_cons, List.flatten_nil, List.append_nil,
        ← Multiset.coe_add, hxm, hym, Multiset.filterMap_add]
      simp
  intro source rows hs hrows
  choose! k hk hm using hrow
  refine ⟨_, fun st hst => ?_, rows.flatMap k, c.engine.yields_mergeMap (fun s hsr => hk s (hrows s hsr)) hs, ?_⟩
  · exact (Build.run_bind_ok (ha.validate hst)).trans (Build.run_bind_ok (hb.validate hst))
  · rw [← Multiset.coe_bind, Solution.join]
    exact Multiset.bind_congr fun s hsr => hm s (hrows s hsr)

/-- A table delivers its rows. -/
theorem values (vs : List Variable) (table : List (List (Option Term))) :
    Delivers c d (Plan.values vs table) (table.map (Plan.rowSolution vs)) := by
  intro source rows hs _
  refine ⟨_, fun st _ => rfl, _, c.engine.yields_mergeMap (fun s _ => .ofList _) hs, ?_⟩
  rw [← Multiset.coe_bind, Solution.join]
  rfl

/-- A projection delivers what its pattern delivers, with the variables that it shows. -/
theorem project (vs : List Variable) (hp : Delivers c d p A) :
    Delivers c d (Plan.project vs p) (A.map (·.project vs)) := by
  intro source rows hs _
  have hempty : ∀ s ∈ [Solution.empty], s.Plain := by
    intro s hs v hv
    rw [List.mem_singleton.1 hs] at hv
    simp [binds] at hv
  obtain ⟨stage, hstage, found, hf, hfm⟩ := hp (.ofList [.empty]) [.empty] (.ofList _) hempty
  have hgather := c.engine.yields_gather (c.engine.yields_map (fun s => s.project vs) hf)
  have hrows : ∀ table : List Solution,
      Yields (CacheOff c.settings d) (c.engine.mergeMap (fun s => .ofList (table.filterMap s.merge?)) source)
        (rows.flatMap fun s => table.filterMap s.merge?) :=
    fun table => c.engine.yields_mergeMap (fun s _ => .ofList _) hs
  refine ⟨_, fun st hst => Build.run_bind_ok (hstage st hst), _,
    c.engine.yields_mergeMap (fun table _ => hrows table) hgather, ?_⟩
  have hfound : (found : Multiset Solution) = A := by
    rw [hfm]
    exact empty_join A
  rw [List.flatMap_singleton, ← Multiset.coe_bind, Solution.join, ← hfound]
  rfl

/-- A graph delivers what its pattern delivers there. -/
theorem graph {iri : Iri} (hi : c.canSee d iri = true) (hp : Delivers (c.withActive (.named iri)) d p A) :
    Delivers c d (Plan.graph (.iri iri) p) A := by
  intro source rows hs hrows
  obtain ⟨stage, hstage, out⟩ := hp source rows hs hrows
  refine ⟨stage, fun st hst => ?_, out⟩
  rw [Plan.graph, Build.run_bind_ok (Build.run_get st), hst.1, if_pos hi]
  exact hstage st hst

/-- Removing hidden variables from rows that do not bind them is joining with the bag that hides them. -/
theorem strip {vs : List Variable} {out : List Solution} {stage : Flow Solution} (hvs : ∀ v ∈ vs, HiddenVariable.IsHidden v)
    (hrows : ∀ s ∈ rows, s.Plain) (ho : Yields (CacheOff c.settings d) stage out)
    (hm : (out : Multiset Solution) = Solution.join rows A) :
    ∃ shown, Yields (CacheOff c.settings d) (HiddenVariable.strip c.engine vs stage) shown ∧
      (shown : Multiset Solution) = Solution.join rows (A.map (HiddenVariable.hide vs)) := by
  have hunbound : ∀ s ∈ (rows : Multiset Solution), ∀ v ∈ vs, s.get? v = none := by
    intro s hs v hv
    cases hsv : s.get? v with
    | none => rfl
    | some t => exact absurd (hvs v hv) (hrows s hs v (binds_iff.2 ⟨t, hsv⟩))
  rw [HiddenVariable.join_map_hide hunbound, ← hm]
  unfold HiddenVariable.strip
  split
  · rename_i hn
    refine ⟨out, ho, ?_⟩
    rw [List.isEmpty_iff.1 hn, Multiset.map_congr rfl fun s _ => HiddenVariable.hide_nil s, Multiset.map_id']
  · exact ⟨_, c.engine.yields_map _ ho, rfl⟩

/-- A pattern whose predicates are not of the search vocabulary is joined as it is. -/
theorem ofPatterns_eq {ps : List TriplePattern} (h : ∀ p ∈ ps, SearchPlan.isSearchTriple p = false) :
    SearchPlan.ofPatterns ps = .ok ⟨ps, []⟩ := by
  have hp : ps.partition SearchPlan.isSearchTriple = ([], ps) := by
    rw [List.partition_eq_filter_filter]
    congr 1
    · exact List.filter_eq_nil_iff.2 fun p hp => by simp [h p hp]
    · exact List.filter_eq_self.2 fun p hp => by simp [h p hp]
  rw [SearchPlan.ofPatterns, hp]
  rfl

/-- A basic graph pattern delivers its solutions without the variables that stand for blank nodes. -/
theorem bgp {ps : List TriplePattern} (hr : c.activeGraph? d = .ok (some r))
    (hb : c.settings.hints.batchSize < 2 ^ 64) (hsearch : ∀ p ∈ ps, SearchPlan.isSearchTriple p = false) :
    Delivers c d (Plan.bgp ps)
      ((solutions (r.tripleSet d) (ps.map HiddenVariable.replace)).map
        (HiddenVariable.hide (HiddenVariable.ofPatterns ps))) := by
  intro source rows hs hrows
  have hplan : SearchPlan.ofPatterns (ps.map HiddenVariable.replace) = .ok ⟨ps.map HiddenVariable.replace, []⟩ := by
    refine ofPatterns_eq fun q hq => ?_
    obtain ⟨p, hp, rfl⟩ := List.mem_map.1 hq
    exact hsearch p hp
  have hjoined : ∃ out, Yields (CacheOff c.settings d)
        (SearchPlan.run c.settings ⟨ps.map HiddenVariable.replace, []⟩ source r) out ∧
      (out : Multiset Solution) =
        Solution.join rows (solutions (r.tripleSet d) (ps.map HiddenVariable.replace)) := by
    unfold SearchPlan.run
    rw [List.foldl_nil]
    dsimp only
    split
    · rename_i hn
      refine ⟨rows, hs, ?_⟩
      rw [List.isEmpty_iff.1 hn, solutions_nil, join_empty]
    · exact yields_bound (answered_of_cacheOff c.settings d r _) (by omega) hs
  obtain ⟨out, ho, hom⟩ := hjoined
  obtain ⟨shown, hshown, hm⟩ := strip (fun v hv => HiddenVariable.isHidden_of_mem_ofSlots hv) hrows ho hom
  refine ⟨_, fun st hst => ?_, shown, hshown, hm⟩
  rw [← hst.1] at hr
  rw [Plan.bgp, hplan]
  exact Build.run_bind_ok (Scope.run_onActiveGraph hr)

/-- Joining with a path that cannot be empty delivers the join with its matches. -/
theorem yields_path {q : PathPattern} (hq : q.path.nullable = false) (hs : Yields (CacheOff c.settings d) source rows) :
    ∃ out, Yields (CacheOff c.settings d) (q.run c.engine r source) out ∧
      (out : Multiset Solution) = Solution.join rows (q.matchesIn (r.tripleSet d)) := by
  have hset : q.matchesIn (r.tripleSet d) = q.matchesIn (r.triples d) :=
    PathPattern.matchesIn_congr hq fun t => mem_firsts
  refine ⟨_, q.yields_run (fun st hst => hst.1) c.engine r hs, ?_⟩
  rw [← Multiset.coe_bind, Solution.join]
  refine Multiset.bind_congr fun s _ => ?_
  rw [hset, ← PathPattern.filterMap_matchesIn_bind, ← Multiset.filterMap_coe, Path.solutions_eq_matchesIn hq]
  rfl

/-- A path delivers its matches without such variables. -/
theorem path {x y : Slot} {p : Path} (hr : c.activeGraph? d = .ok (some r)) (hp : p.nullable = false) :
    Delivers c d (Plan.paths [⟨x, p, y⟩])
      (((PathPattern.mk x p y).hide.matchesIn (r.tripleSet d)).map
        (HiddenVariable.hide (HiddenVariable.ofSlots [x, y]))) := by
  intro source rows hs hrows
  have hq : (PathPattern.mk x p y).hide.path.nullable = false := hp
  obtain ⟨out, ho, hom⟩ := yields_path (r := r) hq hs
  obtain ⟨shown, hshown, hm⟩ := strip (fun v hv => HiddenVariable.isHidden_of_mem_ofSlots hv) hrows ho hom
  refine ⟨_, fun st hst => ?_, shown, hshown, hm⟩
  rw [← hst.1] at hr
  exact Build.run_bind_ok (Scope.run_onActiveGraph hr)

end Delivers

/-- The plan of every such pattern delivers the join with its meaning. -/
theorem Pattern.Core.delivers {p : Pattern} (h : p.Core (c.canSee d)) (hr : c.activeGraph? d = .ok (some r))
    (hb : c.settings.hints.batchSize < 2 ^ 64) : Delivers c d p.plan (p.bag d r) := by
  generalize hv : c.canSee d = visible at h
  induction h generalizing c r with
  | bgp hsearch _ =>
    rw [Pattern.plan, Pattern.bag]
    exact .bgp hr hb hsearch
  | path hp _ =>
    rw [Pattern.plan, Pattern.bag]
    exact .path hr hp
  | join ha _ iha ihb =>
    rw [Pattern.plan, Pattern.bag]
    exact (iha hr hb hv).join (ihb hr hb hv) fun s hs => ha.plain_of_mem_bag hs
  | union _ _ iha ihb =>
    rw [Pattern.plan, Pattern.bag]
    exact (iha hr hb hv).union (ihb hr hb hv)
  | values _ =>
    rw [Pattern.plan, Pattern.bag]
    exact .values _ _
  | @graph iri inner hi _ ih =>
    rw [Pattern.plan, Pattern.bag]
    have hsee : c.canSee d iri = true := by rw [hv, hi]
    refine .graph hsee (ih ?_ hb hv)
    have hn : d.hasNamed iri = true := (Bool.and_eq_true _ _ ▸ hsee).2
    exact if_pos hn
  | project _ ih =>
    rw [Pattern.plan, Pattern.bag]
    exact (ih hr hb hv).project _

/-- Such a plan is built without a failure and without a change of the store, and its stage ends with exactly the
merges of the source rows with the solutions that the pattern means. -/
theorem plan_delivers_join_with_bag {st : Store} {p : Pattern} (hp : p.Core (c.canSee st.dataset))
    (hr : c.activeGraph? st.dataset = .ok (some r)) (hb : c.settings.hints.batchSize < 2 ^ 64)
    (hcache : c.settings.hints.useCache = true → st.cache = none) (hrows : ∀ s ∈ rows, s.Plain) :
    ∃ stage out, (p.plan c (.ofList rows)).run st = (.ok stage, st) ∧ (stage.collect st).1 = .ok out ∧
      (out : Multiset Solution) = join rows (p.bag st.dataset r) := by
  have hst : CacheOff c.settings st.dataset st := ⟨rfl, hcache⟩
  obtain ⟨stage, hstage, out, ho, hom⟩ := hp.delivers hr hb (.ofList rows) rows (.ofList rows) hrows
  obtain ⟨t, -, hc⟩ := ho.collect hst
  exact ⟨stage, out, hstage st hst, by rw [hc], hom⟩

/-- A projection over a union of a pattern with a blank node, joined with a path in another graph, for a row that
binds one of the variables. -/
theorem plan_delivers_join_with_bag_nested :
    let knows : Iri := ⟨"http://example.com/knows"⟩
    let g : Iri := ⟨"http://example.com/g"⟩
    let x : Variable := ⟨"x"⟩
    let y : Variable := ⟨"y"⟩
    let t : Triple := ⟨.iri ⟨"http://example.com/a"⟩, knows, .iri ⟨"http://example.com/b"⟩⟩
    let graph : Graph := (Graph.empty g ⟨true, true⟩).insert t
    let st : Store := ⟨⟨graph, [(g, graph)], fun _ => ⟨true, true⟩⟩, none, 0⟩
    let c : Scope := ⟨⟨.vectorized, ⟨2, .structural, true⟩⟩, ⟨[], .iri knows⟩, .default, none⟩
    let p : Pattern := .project
      (.join (.union (.bgp [⟨.var x, .iri knows, .term (.blank ⟨"b"⟩)⟩]) (.values [x] [[none]]))
        (.graph (.iri g) (.path (.var x) (.oneOrMore (.iri knows)) (.var y)))) [y]
    let rows : List Solution := [Solution.empty.insert y (.iri ⟨"http://example.com/b"⟩), .empty]
    p.Core (c.canSee st.dataset) ∧ c.activeGraph? st.dataset = .ok (some (.single .default)) ∧
      c.settings.hints.batchSize < 2 ^ 64 ∧ (c.settings.hints.useCache = true → st.cache = none) ∧
      (∀ s ∈ rows, s.Plain) ∧
      ∃ stage out, (p.plan c (.ofList rows)).run st = (.ok stage, st) ∧ (stage.collect st).1 = .ok out ∧
        (out : Multiset Solution) = join rows (p.bag st.dataset (.single .default)) := by
  intro knows g x y t graph st c p rows
  have hx : ¬ HiddenVariable.IsHidden x := HiddenVariable.not_isHidden (by decide)
  have hy : ¬ HiddenVariable.IsHidden y := HiddenVariable.not_isHidden (by decide)
  have hp : p.Core (c.canSee st.dataset) := by
    refine .project (.join (.union (.bgp ?_ ?_) (.values ?_)) (.graph ?_ (.path rfl ?_)))
    · decide
    · simp [TriplePattern.mem_vars, Slot.var?, IriSlot.var?, hx]
    · simp [hx]
    · decide
    · rintro v (hv | hv)
      · rwa [← Option.some.inj hv]
      · rwa [← Option.some.inj hv]
  have hr : c.activeGraph? st.dataset = .ok (some (.single .default)) := rfl
  have hb : c.settings.hints.batchSize < 2 ^ 64 := by decide
  have hcache : c.settings.hints.useCache = true → st.cache = none := fun _ => rfl
  have hrows : ∀ s ∈ rows, s.Plain := by
    intro s hs v hv
    rcases List.mem_cons.1 hs with rfl | hs
    · rw [binds, get?_insert] at hv
      by_cases hvy : v = y
      · rwa [hvy]
      · simp [hvy] at hv
    · rw [List.mem_singleton.1 hs] at hv
      simp [binds] at hv
  exact ⟨hp, hr, hb, hcache, hrows, plan_delivers_join_with_bag hp hr hb hcache hrows⟩

end SparqlAlgebra

import SparqlAlgebra.Proofs.Algebra.Meaning
import SparqlAlgebra.Proofs.Join.Kept
import SparqlAlgebra.Proofs.Plan.Build
import SparqlAlgebra.Update.Execute

/-!
# Requests for a single pattern

A query for a single basic graph pattern shows what its look-up delivers: the solutions that have been kept under
its key, whichever graph they are from and however long ago, and else its own. An update deletes and inserts for the
same solutions. So nothing else that a request does makes up for an entry that is not right.
-/

namespace SparqlAlgebra

open Stage Join

variable {d : Dataset} {l : Lookup}

/-- What has been kept last is found. -/
theorem Cache.get?_insert {k : Cache} (hroom : k.capacity ≠ 0) (graph : Iri) (ps : List TriplePattern)
    (ss : List Solution) : (k.insert graph ps ss).get? graph ps = some ss := by
  have hmissing : ∀ es : List (CacheKey × List Solution),
      (es.filter fun e => e.1 != .ofPatterns graph ps).lookup (.ofPatterns graph ps) = none := by
    intro es
    rw [List.lookup_eq_none_iff]
    intro e he
    have hne := (List.mem_filter.1 he).2
    rw [bne_iff_ne] at hne ⊢
    exact hne.symm
  unfold get? insert
  dsimp only
  rw [if_neg hroom, List.lookup_append, hmissing]
  simp

namespace Lookup

/-- Keeping its own solutions does not change what a look-up delivers if it delivers them. -/
theorem delivered_keeping {s : Store} (hd : s.dataset = d) (h : l.delivered s = l.solutions d) :
    l.delivered (keeping l d s) = l.solutions d := by
  have hdataset : (keeping l d s).dataset = d := hd
  unfold delivered found? at *
  rw [hdataset]
  rw [hd] at h
  cases hcache : s.cache with
  | none =>
    have hnone : (keeping l d s).cache = none := by rw [keeping, hcache]; rfl
    rw [hnone]
    simp
  | some k =>
    have hsome : (keeping l d s).cache = some (k.insert (l.graph.iri d) l.patterns (l.solutions d)) := by
      rw [keeping, hcache]
      rfl
    rw [hsome]
    by_cases hroom : k.capacity = 0
    · have hsame : k.insert (l.graph.iri d) l.patterns (l.solutions d) = k := if_pos hroom
      rwa [hsame, ← hcache]
    · cases l.settings.hints.useCache with
      | false => rfl
      | true => simp [Cache.get?_insert hroom]

/-- The store differs from an earlier one in nothing but what it has kept, and not for the look-up. -/
structure SameFor (l : Lookup) (st s : Store) : Prop where
  /-- The dataset is the same. -/
  dataset : s.dataset = st.dataset
  /-- The next drawn values are the same. -/
  seed : s.seed = st.seed
  /-- What the look-up is served is the same. -/
  delivered : l.delivered s = l.delivered st

/-- A store is the same as itself for a look-up. -/
theorem SameFor.refl (l : Lookup) (st : Store) : l.SameFor st st := ⟨rfl, rfl, rfl⟩

/-- A look-up delivers what it finds, or else its solutions. -/
theorem yields_cachedBgp (l : Lookup) (st : Store) :
    Yields (l.SameFor st) (cachedBgp l.settings l.graph l.patterns) (l.delivered st) := by
  rw [cachedBgp_eq]
  refine .read fun s hs => ?_
  have hin : Yields (l.SameFor st) (cachedIn l.settings l.graph l.patterns s) (l.delivered s) := by
    refine yields_cachedIn (fun _ ht => ht.dataset) (fun hnone u hu => ⟨hu.dataset, hu.seed, ?_⟩) hs
    have hown : l.delivered st = l.solutions st.dataset := by
      rw [← hs.delivered, delivered, hnone, hs.dataset]
      rfl
    rw [hown]
    exact delivered_keeping hu.dataset (hu.delivered.trans hown)
  rwa [hs.delivered] at hin

/-- Among lists that make up a single value one is not empty. -/
theorem flatMap_of_flatten {α β : Type} {runs : List (List α)} {x : α} (h : runs.flatten = [x]) (ys : List β) :
    (runs.flatMap fun run => if run.isEmpty then [] else ys) = ys := by
  induction runs with
  | nil => cases h
  | cons run runs ih =>
    rw [List.flatMap_cons]
    cases run with
    | nil => exact ih h
    | cons y run =>
      obtain ⟨-, hrest⟩ := List.cons.inj h
      obtain ⟨-, hruns⟩ := List.append_eq_nil_iff.1 hrest
      have hnone : (runs.flatMap fun run => if run.isEmpty then [] else ys) = [] := by
        rw [List.flatMap_eq_nil_iff]
        intro run hrun
        rw [List.flatten_eq_nil_iff.1 hruns run hrun]
        rfl
      rw [hnone]
      simp

/-- Joined with nothing, the patterns have what the look-up delivers. -/
theorem yields_bound (l : Lookup) (st : Store) :
    Yields (l.SameFor st) (bound l.settings l.graph l.patterns (.ofList [.empty])) (l.delivered st) := by
  refine .read fun s _ => ?_
  split
  · obtain ⟨runs, hruns, hflat, -⟩ :=
      l.settings.engine.yields_buffer (P := l.SameFor st) l.settings.hints.batchSize (.ofList [Solution.empty])
    have hbatch : ∀ run ∈ runs,
        Yields (l.SameFor st) (batch l.settings l.graph l.patterns run) (if run.isEmpty then [] else l.delivered st) := by
      intro run hrun
      have hsub : run = [] ∨ run = [.empty] := by
        have hsublist : run.Sublist [Solution.empty] := by
          rw [← hflat]
          exact List.sublist_flatten_of_mem hrun
        exact List.sublist_singleton.1 hsublist
      rcases hsub with rfl | rfl
      · have hmerge : ∃ ys, Yields (l.SameFor st) (l.settings.engine.merge ([] : List (Flow Solution))) ys ∧
            ys.Perm [] := l.settings.engine.yields_merge .nil
        obtain ⟨ys, hy, hperm⟩ := hmerge
        rw [List.perm_nil] at hperm
        subst hperm
        exact hy
      · exact l.yields_cachedBgp st
    have hall := l.settings.engine.yields_mergeMap hbatch hruns
    rwa [flatMap_of_flatten hflat] at hall
  · have hrow : ∀ s ∈ [Solution.empty], Yields (l.SameFor st)
        (if s.isEmpty then cachedBgp l.settings l.graph l.patterns
          else l.settings.engine.filterMap s.merge? (bgp l.settings l.graph (l.patterns.map (·.bind s))))
        (l.delivered st) := by
      intro s hs
      rw [List.mem_singleton.1 hs]
      exact l.yields_cachedBgp st
    have hall := l.settings.engine.yields_mergeMap hrow (.ofList _)
    rwa [List.flatMap_singleton] at hall

end Lookup

section Answers

variable {c : Scope} {ps : List TriplePattern} {st : Store}

/-- The plan of a pattern makes this look-up and no search, in an active graph that does not depend on solutions. -/
structure Plan.LooksUp (c : Scope) (d : Dataset) (ps : List TriplePattern) (l : Lookup) : Prop where
  /-- The look-up has the settings of the plan. -/
  settings : l.settings = c.settings
  /-- The look-up is made in the active graph. -/
  active : c.activeGraph? d = .ok (some l.graph)
  /-- The patterns of the look-up are those of the plan, which has no searches. -/
  plan : SearchPlan.ofPatterns (ps.map HiddenVariable.replace) = .ok ⟨l.patterns, []⟩
  /-- There is a pattern to look up. -/
  notEmpty : l.patterns.isEmpty = false

/-- A plan with one look-up shows what this delivers, without the hidden variables. -/
theorem Plan.run_bgp (h : LooksUp c st.dataset ps l) :
    ∃ stage, (bgp ps c (.ofList [.empty])).run st = (.ok stage, st) ∧
      Yields (l.SameFor st) stage ((l.delivered st).map (HiddenVariable.hide (HiddenVariable.ofPatterns ps))) := by
  have hbound := l.yields_bound st
  have hrun : SearchPlan.run c.settings ⟨l.patterns, []⟩ (.ofList [.empty]) l.graph =
      bound l.settings l.graph l.patterns (.ofList [.empty]) := by
    rw [SearchPlan.run, List.foldl_nil, h.settings]
    simp [h.notEmpty]
  refine ⟨HiddenVariable.strip c.engine (HiddenVariable.ofPatterns ps)
    (SearchPlan.run c.settings ⟨l.patterns, []⟩ (.ofList [.empty]) l.graph), ?_, ?_⟩
  · rw [bgp, h.plan]
    exact Build.run_bind_ok (Scope.run_onActiveGraph h.active)
  · rw [hrun, HiddenVariable.strip]
    split
    · rename_i hnone
      have hsame : (l.delivered st).map (HiddenVariable.hide (HiddenVariable.ofPatterns ps)) = l.delivered st := by
        rw [List.isEmpty_iff.1 hnone, List.map_congr_left fun s _ => HiddenVariable.hide_nil s, List.map_id']
      rwa [hsame]
    · exact c.engine.yields_map _ hbound

namespace Query

variable {choice : Option QueryDataset}

/-- What is shown of a solution in the answer to a query for a single pattern. -/
def shown (ps : List TriplePattern) (s : Solution) : Solution :=
  (HiddenVariable.hide (HiddenVariable.ofPatterns ps) s).project (Pattern.bgp ps).inScope

/-- A query for a single pattern is answered with what its look-up delivers. -/
theorem evaluate_bgp (h : Plan.LooksUp (c.withDataset choice) st.dataset ps l) :
    ((evaluate c ⟨.select, .bgp ps, choice⟩).run st).1 =
      .ok (.solutions (Pattern.bgp ps).inScope ((l.delivered st).map (shown ps))) := by
  obtain ⟨stage, hstage, hy⟩ := Plan.run_bgp h
  obtain ⟨t, -, hcollect⟩ := hy.collect (.refl l st)
  have hplanned : (Query.stage c ⟨.select, .bgp ps, choice⟩).run st = (.ok stage, st) := by
    rw [Query.stage, Pattern.plan]
    exact hstage
  have hrows : (Plan.collect stage).run st = (.ok _, t) := hcollect
  rw [evaluate, Build.run_bind_ok hplanned, Build.run_bind_ok hrows, List.map_map]
  rfl

/-- The answer is the same without kept solutions if and only if what is shown of them is the same. -/
theorem evaluate_bgp_eq_iff (h : Plan.LooksUp (c.withDataset choice) st.dataset ps l) :
    ((evaluate c ⟨.select, .bgp ps, choice⟩).run st).1 =
        ((evaluate c ⟨.select, .bgp ps, choice⟩).run { st with cache := none }).1 ↔
      (l.delivered st).map (shown ps) = (l.solutions st.dataset).map (shown ps) := by
  have hkept := evaluate_bgp h
  have hfresh : ((evaluate c ⟨.select, .bgp ps, choice⟩).run { st with cache := none }).1 =
      .ok (.solutions (Pattern.bgp ps).inScope ((l.delivered { st with cache := none }).map (shown ps))) :=
    evaluate_bgp h
  have hown : l.delivered { st with cache := none } = l.solutions st.dataset := by
    simp [Lookup.delivered, Lookup.found?]
  rw [hkept, hfresh, hown]
  simp

end Query

/-- Once the stage of its pattern is there, an operation deletes and inserts the instances for what the stage
yields. -/
theorem UpdateOperation.replace_of_yields {P : Store → Prop} {p : Pattern} {stage : Flow Solution}
    {rows : List Solution} (delete insert : List QuadPattern) (choice : Option QueryDataset)
    (hstage : (p.plan.fromEmpty (c.withDataset choice)).run st = (.ok stage, st)) (hy : Yields P stage rows) (hst : P st) :
    ∃ t, P t ∧ (replace c delete insert choice p).run st = (.ok (), applyTemplates delete insert rows t) := by
  obtain ⟨t, ht, hcollect⟩ := hy.collect hst
  have hrows : (Plan.collect stage).run st = (.ok rows, t) := hcollect
  refine ⟨t, ht, ?_⟩
  rw [replace, Build.run_bind_ok hstage, Build.run_bind_ok hrows]
  rfl

/-- An operation for a single pattern deletes and inserts the instances for what its look-up delivers. -/
theorem UpdateOperation.execute_bgp {choice : Option QueryDataset} (delete insert : List QuadPattern)
    (h : Plan.LooksUp (c.withDataset choice) st.dataset ps l) :
    ∃ t, l.SameFor st t ∧ ((UpdateOperation.deleteInsert delete insert choice (.bgp ps)).execute c).run st =
      (.ok (), applyTemplates delete insert
        ((l.delivered st).map (HiddenVariable.hide (HiddenVariable.ofPatterns ps))) t) := by
  obtain ⟨stage, hstage, hy⟩ := Plan.run_bgp h
  have hplanned : ((Pattern.bgp ps).plan.fromEmpty (c.withDataset choice)).run st = (.ok stage, st) := by
    rw [Pattern.plan]
    exact hstage
  exact replace_of_yields delete insert choice hplanned hy (.refl l st)

end Answers

end SparqlAlgebra

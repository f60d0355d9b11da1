import SparqlAlgebra.Proofs.Algebra.Known
import SparqlAlgebra.Proofs.Plan.GraphVariable
import SparqlAlgebra.Proofs.Plan.RowsGrouped

/-!
# Solutions do not depend on the configuration

The plan of a pattern that does not depend on an order delivers the rows of the pattern, whatever the engine, the hints
and the capabilities of the graphs are. These rows are made of what is matched in the graphs, and this depends only on
which triples they have. So two evaluations over graphs with the same triples deliver the same bag of solutions.
-/

namespace SparqlAlgebra

open Solution Stage Join

variable {c : Scope} {d : Dataset}

/-- A steady expression draws nothing, if it can be compiled at all. -/
theorem Plan.compiles_of_isSteady {e : Expression} (h : e.isSteady = true) : Plan.Compiles True c e :=
  ⟨fun _ _ => trivial, fun _ hr => (Expression.ready_steady h hr).1⟩

/-- An aggregate that does not depend on the order is folded in any order, if it can be compiled at all. -/
theorem Plan.folds_of_isOrderFree {a : Aggregate} (h : a.isOrderFree = true) : Plan.Folds True c a :=
  ⟨fun _ _ => trivial, fun _ hr => a.ready_isOrderFree h hr, fun _ _ _ _ _ => trivial⟩

mutual

/-- The plan of a pattern without order turns a bag of rows into the rows of the pattern, unless it fails. -/
theorem Pattern.means (d : Dataset) : (p : Pattern) → p.isOrderFree = true → (c : Scope) →
    c.settings.hints.batchSize < 2 ^ 64 →
    Plan.Means (CacheOff c.settings d) True c p.plan (p.rows (c.leafRows d) c.compiler c.active)
  | .bgp ps, h, c, hb => by
    rw [Pattern.isOrderFree] at h
    have hsearch : ∀ p ∈ ps, SearchPlan.isSearchTriple p = false := by simpa using h
    rw [Pattern.plan]
    exact Plan.means_bgp (fun _ hs => hs.1) (fun _ _ => trivial) (fun qs _ r _ => answered_of_cacheOff ..) hb hsearch
  | .path x p y, _, c, _ => by
    rw [Pattern.plan]
    exact Plan.means_path (fun _ hs => hs.1) fun _ _ => trivial
  | .join a b, h, c, hb => by
    rw [Pattern.isOrderFree, Bool.and_eq_true] at h
    rw [Pattern.plan, Pattern.rows]
    exact Plan.means_join (a.means d h.1 c hb) .any (b.means d h.2 c hb)
  | .leftJoin a b none, h, c, hb => by
    rw [Pattern.isOrderFree, Bool.and_eq_true] at h
    rw [Pattern.plan, Pattern.rows]
    exact Plan.means_leftJoin_none (a.means d h.1 c hb) .any (b.means d h.2 c hb)
  | .leftJoin a b (some e), h, c, hb => by
    rw [Pattern.isOrderFree, Bool.and_eq_true, Bool.and_eq_true, Bool.and_eq_true] at h
    obtain ⟨⟨⟨ha, hbp⟩, hsteady⟩, htests⟩ := h
    rw [Pattern.plan, Pattern.rows]
    exact Plan.means_leftJoin_some (a.means d ha c hb) .any (b.means d hbp c hb) .any (e.means_tests d htests c hb)
      (Plan.compiles_of_isSteady hsteady)
  | .filter e inner, h, c, hb => by
    rw [Pattern.isOrderFree, Bool.and_eq_true, Bool.and_eq_true] at h
    obtain ⟨⟨hsteady, htests⟩, hinner⟩ := h
    rw [Pattern.plan]
    exact Plan.means_filter (e.means_tests d htests c hb) (inner.means d hinner c hb) .any
      (Plan.compiles_of_isSteady hsteady)
  | .union a b, h, c, hb => by
    rw [Pattern.isOrderFree, Bool.and_eq_true] at h
    rw [Pattern.plan, Pattern.rows]
    exact Plan.means_union (a.means d h.1 c hb) (b.means d h.2 c hb)
  | .minus a b, h, c, hb => by
    rw [Pattern.isOrderFree, Bool.and_eq_true] at h
    rw [Pattern.plan, Pattern.rows]
    exact Plan.means_minus (a.means d h.1 c hb) (b.means d h.2 c hb) trivial
  | .graph (.iri iri) inner, h, c, hb => by
    rw [Pattern.isOrderFree] at h
    rw [Pattern.plan, Pattern.rows]
    -- The scope of the graph has the same settings and sees the same graphs.
    exact Plan.means_graph (fun _ hs => hs.1) (fun _ => trivial) fun _ => inner.means d h (c.withActive (.named iri)) hb
  | .graph (.var v) inner, h, _, _ => by
    rw [Pattern.isOrderFree] at h
    exact absurd h Bool.false_ne_true
  | .extend inner v e, h, c, hb => by
    rw [Pattern.isOrderFree, Bool.and_eq_true, Bool.and_eq_true] at h
    obtain ⟨⟨hsteady, htests⟩, hinner⟩ := h
    rw [Pattern.plan, Pattern.rows]
    exact Plan.means_extend v (e.means_tests d htests c hb) (inner.means d hinner c hb) .any
      (Plan.compiles_of_isSteady hsteady)
  | .values vs rows, _, c, _ => by
    rw [Pattern.plan, Pattern.rows]
    exact Plan.means_values vs rows
  | .orderBy inner keys, h, c, hb => by
    rw [Pattern.isOrderFree, Bool.and_eq_true, List.all_eq_true] at h
    rw [Pattern.plan, Pattern.rows]
    exact Plan.means_orderBy (inner.means d h.1 c hb) fun key hkey =>
      Plan.compiles_of_isSteady (key.isSteady_expression.trans (h.2 key hkey))
  | .project inner vs, h, c, hb => by
    rw [Pattern.isOrderFree] at h
    rw [Pattern.plan, Pattern.rows]
    exact Plan.means_project vs (inner.means d h c hb) trivial
  | .distinct inner, h, c, hb | .reduced inner, h, c, hb => by
    rw [Pattern.isOrderFree] at h
    rw [Pattern.plan]
    exact Plan.means_distinct (inner.means d h c hb)
  | .slice inner start length, h, _, _ => by
    rw [Pattern.isOrderFree] at h
    exact absurd h Bool.false_ne_true
  | .group inner vs as, h, c, hb => by
    rw [Pattern.isOrderFree, Bool.and_eq_true, List.all_eq_true] at h
    rw [Pattern.plan]
    exact Plan.means_group (inner.means d h.1 c hb) fun a ha => Plan.folds_of_isOrderFree (h.2 a ha)
  | .service name inner silent, h, _, _ => by
    rw [Pattern.isOrderFree] at h
    exact absurd h Bool.false_ne_true

/-- The plans of the patterns whose existence an expression tests mean the rows of these patterns. -/
theorem Expression.means_tests (d : Dataset) : (e : Expression) → e.testsAreOrderFree = true → (c : Scope) →
    c.settings.hints.batchSize < 2 ^ 64 →
    List.Forall₂ (Plan.Means (CacheOff c.settings d) True c) e.tests
      (e.testRows (c.leafRows d) c.compiler c.active)
  | .constant _, _, _, _ | .var _, _, _, _ | .isBound _, _, _, _ => by
    rw [Expression.tests, Expression.testRows]
    exact .nil
  | .or x y, h, c, hb | .and x y, h, c, hb | .equal x y, h, c, hb | .sameTerm x y, h, c, hb
  | .compare _ x y, h, c, hb | .arithmetic _ x y, h, c, hb => by
    rw [Expression.testsAreOrderFree, Bool.and_eq_true] at h
    rw [Expression.tests, Expression.testRows]
    exact List.rel_append (x.means_tests d h.1 c hb) (y.means_tests d h.2 c hb)
  | .not x, h, c, hb | .sign _ x, h, c, hb => by
    rw [Expression.testsAreOrderFree] at h
    rw [Expression.tests, Expression.testRows]
    exact x.means_tests d h c hb
  | .member x es, h, c, hb => by
    rw [Expression.testsAreOrderFree, Bool.and_eq_true] at h
    rw [Expression.tests, Expression.testRows]
    exact List.rel_append (x.means_tests d h.1 c hb) (Expression.means_testsOfAll d es h.2 c hb)
  | .hasSolution p, h, c, hb => by
    rw [Expression.testsAreOrderFree] at h
    rw [Expression.tests, Expression.testRows]
    exact .cons (p.means d h c hb) .nil
  | .choose x y z, h, c, hb => by
    rw [Expression.testsAreOrderFree, Bool.and_eq_true, Bool.and_eq_true] at h
    rw [Expression.tests, Expression.testRows]
    exact List.rel_append (List.rel_append (x.means_tests d h.1.1 c hb) (y.means_tests d h.1.2 c hb))
      (z.means_tests d h.2 c hb)
  | .coalesce es, h, c, hb | .call _ es, h, c, hb => by
    rw [Expression.testsAreOrderFree] at h
    rw [Expression.tests, Expression.testRows]
    exact Expression.means_testsOfAll d es h c hb

/-- The plans of the patterns whose existence several expressions test mean the rows of these patterns. -/
theorem Expression.means_testsOfAll (d : Dataset) : (es : List Expression) →
    Expression.allTestsAreOrderFree es = true → (c : Scope) → c.settings.hints.batchSize < 2 ^ 64 →
    List.Forall₂ (Plan.Means (CacheOff c.settings d) True c) (Expression.testsOfAll es)
      (Expression.testRowsOfAll (c.leafRows d) c.compiler es c.active)
  | [], _, _, _ => by
    rw [Expression.testsOfAll, Expression.testRowsOfAll]
    exact .nil
  | e :: es, h, c, hb => by
    rw [Expression.allTestsAreOrderFree, Bool.and_eq_true] at h
    rw [Expression.testsOfAll, Expression.testRowsOfAll]
    exact List.rel_append (e.means_tests d h.1 c hb) (Expression.means_testsOfAll d es h.2 c hb)

end

/-! ## Graphs with the same triples -/

/-- Datasets with the same named graphs and the same triples in each of them. The graphs may differ in what they can
do, and in the order in which they keep their triples. -/
structure Dataset.SameContent (d e : Dataset) : Prop where
  /-- The named graphs are the same. -/
  names : d.names.Perm e.names
  /-- Every graph has the same triples. -/
  triples : ∀ name t, t ∈ (d.graph name).triples ↔ t ∈ (e.graph name).triples

namespace Dataset.SameContent

variable {e : Dataset}

/-- Datasets with the same content have the same named graphs. -/
theorem hasNamed (h : d.SameContent e) : d.hasNamed = e.hasNamed := by
  funext iri
  rw [Bool.eq_iff_iff, ← Scope.mem_names_iff, ← Scope.mem_names_iff]
  exact h.names.mem_iff

/-- A reference has the same triples in datasets with the same content. -/
theorem mem_triples (h : d.SameContent e) (r : GraphRef) (t : Triple) : t ∈ r.triples d ↔ t ∈ r.triples e := by
  rw [GraphRef.triples, GraphRef.triples, List.mem_flatMap, List.mem_flatMap]
  exact exists_congr fun name => and_congr_right fun _ => h.triples name t

/-- The same is found in both datasets, wherever the active graph is looked up. -/
theorem find (h : d.SameContent e) (c : Scope) {f g : GraphRef → Solution → Multiset Solution} (hfg : f = g)
    (s : Solution) (active : ActiveGraph) : c.find d f s active = c.find e g s active := by
  subst hfg
  have hsee : c.canSee d = c.canSee e := by
    funext iri
    rw [Scope.canSee, Scope.canSee, h.hasNamed]
  have hgraphs : (c.namedGraphs d).Perm (c.namedGraphs e) := by
    unfold Scope.namedGraphs
    split
    · rw [h.hasNamed]
    · exact h.names
  cases active with
  | default => rfl
  | named iri => rfl
  | union iris => rw [Scope.find, Scope.find, h.hasNamed]
  | bound v => rw [Scope.find, Scope.find, hsee, Multiset.coe_eq_coe.2 hgraphs]

/-- What patterns match depends only on the content. -/
theorem leafRows (h : d.SameContent e) (c : Scope) : c.leafRows d = c.leafRows e := by
  unfold Scope.leafRows
  congr 1
  · funext active ps s
    exact h.find c (funext fun r => GraphRef.bgpRows_congr (h.mem_triples r) ps) s active
  · funext active q s
    exact h.find c (funext fun r => GraphRef.pathRows_congr (h.mem_triples r) q) s active

end Dataset.SameContent

namespace Pattern

variable {p : Pattern} {x y : Settings} {st : Store} {rows : List Solution}

/-- An evaluation from the empty row that does not fail delivers the rows of the pattern over the empty row. -/
theorem collected_eq_rows (hp : p.isOrderFree = true) (hb : c.settings.hints.batchSize < 2 ^ 64)
    (hcache : c.settings.hints.useCache = true → st.cache = none)
    (h : ((p.plan.fromEmpty c >>= Plan.collect).run st).1 = .ok rows) :
    (rows : Multiset Solution) =
      p.rows (c.leafRows st.dataset) c.compiler c.active {Solution.empty} := by
  have hst : CacheOff c.settings st.dataset st := ⟨rfl, hcache⟩
  have hgives := (p.means st.dataset hp c hb).single (s := .empty) trivial hst
  have hends := Plan.collected hgives hst
  have hrun : (p.plan c (.ofList [.empty]) >>= Plan.collect).run st =
      (.ok rows, ((p.plan.fromEmpty c >>= Plan.collect).run st).2) := Prod.ext h rfl
  rw [hrun] at hends
  exact hends.2

/-- Two evaluations of such a pattern from the empty row deliver the same bag of solutions, whatever the engine, the
batch size of 64 bits and the ordering hint of each of them are, and whatever the graphs of each of them can do,
provided that neither uses kept solutions and neither fails. -/
theorem bag_independent_of_configuration (hp : p.isOrderFree = true) (c : Scope) {other : Store}
    {others : List Solution} (hcontent : st.dataset.SameContent other.dataset)
    (hx : x.hints.batchSize < 2 ^ 64) (hy : y.hints.batchSize < 2 ^ 64)
    (hxcache : x.hints.useCache = true → st.cache = none) (hycache : y.hints.useCache = true → other.cache = none)
    (hrows : ((p.plan.fromEmpty { c with settings := x } >>= Plan.collect).run st).1 = .ok rows)
    (hothers : ((p.plan.fromEmpty { c with settings := y } >>= Plan.collect).run other).1 = .ok others) :
    rows.Perm others := by
  have hfirst := collected_eq_rows hp hx hxcache hrows
  have hsecond := collected_eq_rows hp hy hycache hothers
  -- Neither the settings nor the capabilities occur in what the patterns match.
  have hleaves : ({ c with settings := x } : Scope).leafRows st.dataset =
      ({ c with settings := y } : Scope).leafRows other.dataset := hcontent.leafRows { c with settings := x }
  rw [hleaves] at hfirst
  exact Multiset.coe_eq_coe.1 (hfirst.trans hsecond.symm)

/-- The number of friends of each of two persons who know each other, counted item by item with graphs that estimate,
and list by list over the same triples in another order with graphs that do not. -/
theorem bag_independent_of_configuration_reordered :
    let knows : Iri := ⟨"http://example.com/knows"⟩
    let friends : Iri := ⟨"http://example.com/friends"⟩
    let x : Variable := ⟨"x"⟩
    let y : Variable := ⟨"y"⟩
    let n : Variable := ⟨"n"⟩
    let a : Resource := .iri ⟨"http://example.com/a"⟩
    let b : Resource := .iri ⟨"http://example.com/b"⟩
    let t : Triple := ⟨a, knows, b.toTerm⟩
    let u : Triple := ⟨b, knows, a.toTerm⟩
    let dataset : Capabilities → List Triple → Dataset := fun able ts =>
      ⟨.empty defaultGraphIri able, [(friends, (Graph.empty friends able).insertAll ts)], fun _ => able⟩
    let st : Store := ⟨dataset ⟨true, true⟩ [t, u], none, 0⟩
    let other : Store := ⟨dataset ⟨false, false⟩ [u, t], none, 7⟩
    let c : Scope := ⟨⟨.streaming, ⟨1, .structural, false⟩⟩, ⟨[], .iri knows⟩, .default, none⟩
    let settings : Settings := ⟨.vectorized, ⟨15, .asWritten, true⟩⟩
    let p : Pattern := .graph (.iri friends) <| .group
      (.filter (.hasSolution (.bgp [⟨.var y, .iri knows, .var x⟩])) (.bgp [⟨.var x, .iri knows, .var y⟩]))
      [x] [(n, .apply .count true (.var y))]
    let row : Resource → Solution := fun r =>
      (Solution.empty.insert x r.toTerm).insert n (.literal (.ofInt 1))
    p.isOrderFree = true ∧ st.dataset.SameContent other.dataset ∧
      c.settings.hints.batchSize < 2 ^ 64 ∧ settings.hints.batchSize < 2 ^ 64 ∧
      (c.settings.hints.useCache = true → st.cache = none) ∧ (settings.hints.useCache = true → other.cache = none) ∧
      ((p.plan.fromEmpty { c with settings := c.settings } >>= Plan.collect).run st).1 = .ok [row a, row b] ∧
      ((p.plan.fromEmpty { c with settings := settings } >>= Plan.collect).run other).1 = .ok [row b, row a] ∧
      [row a, row b].Perm [row b, row a] := by
  intro knows friends x y n a b t u dataset st other c settings p row
  have hp : p.isOrderFree = true := by decide
  have hcontent : st.dataset.SameContent other.dataset := by
    refine ⟨.refl _, fun name triple => ?_⟩
    cases name with
    | default => rfl
    | named iri =>
      by_cases hiri : iri = friends
      · subst hiri
        have hst : (st.dataset.graph (.named friends)).triples = [t, u] := by decide +kernel
        have hother : (other.dataset.graph (.named friends)).triples = [u, t] := by decide +kernel
        rw [hst, hother]
        exact (List.Perm.swap u t []).mem_iff
      · have hnone : ∀ able ts, (dataset able ts).graph? (.named iri) = none := by
          intro able ts
          simp [dataset, Dataset.graph?, Dataset.named?, hiri]
        rw [Dataset.graph, Dataset.graph, hnone, hnone]
  have hx : c.settings.hints.batchSize < 2 ^ 64 := by decide
  have hy : settings.hints.batchSize < 2 ^ 64 := by decide
  have hrows : ((p.plan.fromEmpty { c with settings := c.settings } >>= Plan.collect).run st).1 =
      .ok [row a, row b] := by decide +kernel
  have hothers : ((p.plan.fromEmpty { c with settings := settings } >>= Plan.collect).run other).1 =
      .ok [row b, row a] := by decide +kernel
  exact ⟨hp, hcontent, hx, hy, fun _ => rfl, fun _ => rfl, hrows, hothers,
    bag_independent_of_configuration hp c hcontent hx hy (fun _ => rfl) (fun _ => rfl) hrows hothers⟩

end Pattern

end SparqlAlgebra

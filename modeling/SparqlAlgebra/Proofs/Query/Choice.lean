import SparqlAlgebra.Proofs.Plan.Choice

/-!
# The choice of graphs is one of sets

A query that chooses its graphs has the same solutions in whatever order it names them and however often, if nothing
in its pattern depends on an order. An order decides which of two hits of the same relevance is the first one, what a
silent service delivers before it fails, and which rows see a graph that a service creates. A variable goes through the
list of names and not through the set of them: a graph that is named twice gives its solutions twice, while every other
use of the names counts it once.
-/

namespace SparqlAlgebra

open Solution Stage

variable {c : Scope} {d : Dataset} {st : Store} {listed early : Bool} {q r : QueryDataset} {p : Pattern}

/-- The same graphs are chosen, whatever their order is and how often they are named. Where all graphs that can be seen
are gone through, each of them is named as often. -/
structure QueryDataset.SameGraphs (listed : Bool) (q r : QueryDataset) : Prop where
  /-- The same graphs make up the default graph. -/
  default : ∀ iri, iri ∈ q.default ↔ iri ∈ r.default
  /-- The same named graphs are chosen. -/
  named : Option.Rel (fun iris others => ∀ iri, iri ∈ iris ↔ iri ∈ others) q.named r.named
  /-- Where they are gone through, the named graphs are listed alike up to their order. -/
  perm : listed = true → Option.Rel List.Perm q.named r.named

/-- A choice is one of the same graphs as itself. -/
theorem QueryDataset.SameGraphs.refl (listed : Bool) (q : QueryDataset) : q.SameGraphs listed q := by
  obtain ⟨iris, named⟩ := q
  cases named with
  | none => exact ⟨fun _ => .rfl, .none, fun _ => .none⟩
  | some others => exact ⟨fun _ => .rfl, .some fun _ => .rfl, fun _ => .some (.refl _)⟩

/-- Choices of the same graphs give scopes that stand for the same graphs. -/
theorem QueryDataset.SameGraphs.scope (h : q.SameGraphs listed r) (c : Scope) (d : Dataset) :
    Scope.SameGraphs listed d (c.withDataset (some q)) (c.withDataset (some r)) where
  compiler := rfl
  active := h.default
  canSee := by
    have hvisible : ∀ iri, (q.named.map (·.contains iri)).getD true = (r.named.map (·.contains iri)).getD true := by
      obtain ⟨iris, named⟩ := q
      obtain ⟨others, named'⟩ := r
      cases h.named with
      | none => exact fun _ => rfl
      | some hsame => exact fun iri => Bool.eq_iff_iff.2 (by simpa using hsame iri)
    funext iri
    exact congrArg (· && d.hasNamed iri) (hvisible iri)
  namedGraphs hlisted := by
    obtain ⟨iris, named⟩ := q
    obtain ⟨others, named'⟩ := r
    cases h.perm hlisted with
    | none => exact .refl _
    | some hperm => exact hperm.filter _

namespace Query

/-- The solutions are those that are collected from the pattern, with the variables that are shown. -/
theorem evaluate_select (choice : Option QueryDataset) :
    ((evaluate c ⟨.select, p, choice⟩).run st).1 =
      ((p.plan.fromEmpty (c.withDataset choice) >>= Plan.collect).run st).1.map fun found =>
        .solutions p.inScope (found.map (·.project p.inScope)) := by
  have hstage : stage c ⟨.select, p, choice⟩ = p.plan.fromEmpty (c.withDataset choice) := rfl
  rw [evaluate, hstage, Build.run_bind, Build.run_bind]
  rcases (p.plan.fromEmpty (c.withDataset choice)).run st with ⟨e | found, t⟩
  · rfl
  · dsimp only
    rw [Build.run_bind]
    rcases (Plan.collect found).run t with ⟨e | rows, u⟩
    · rfl
    · rfl

/-- The answer to a query for one search alone. -/
theorem evaluate_search {P : Store → Prop} {ps : List TriplePattern} {b : BoundSearch} {iris : List Iri}
    (visible : Option (List Iri)) {rows : List Solution}
    (hplan : SearchPlan.ofPatterns (ps.map HiddenVariable.replace) = .ok ⟨[], [b]⟩)
    (hhidden : HiddenVariable.ofPatterns ps = []) (hthere : iris.filter st.dataset.hasNamed = iris)
    (hrows : Yields P (b.run c.engine (.union (iris.map fun iri => .single (.named iri))) (.ofList [.empty])) rows)
    (hst : P st) :
    ((evaluate c ⟨.select, .bgp ps, some ⟨iris, visible⟩⟩).run st).1 =
      .ok (.solutions (Pattern.bgp ps).inScope (rows.map (·.project (Pattern.bgp ps).inScope))) := by
  have hactive : (c.withDataset (some ⟨iris, visible⟩)).activeGraph? st.dataset =
      .ok (some (.union (iris.map fun iri => .single (.named iri)))) := by
    conv_rhs => rw [← hthere]
    rfl
  obtain ⟨t, -, hcollect⟩ := hrows.collect hst
  rw [evaluate_select, Plan.fromEmpty, Pattern.plan, Plan.bgp, hplan]
  dsimp only
  rw [bind_assoc, Build.run_bind_ok (Scope.run_onActiveGraph hactive), hhidden]
  exact congrArg (fun found => Except.map _ found.1) hcollect

/-- A query succeeds exactly if its solutions can be collected. -/
theorem isOk_evaluate_select (choice : Option QueryDataset) :
    ((evaluate c ⟨.select, p, choice⟩).run st).1.isOk =
      ((p.plan.fromEmpty (c.withDataset choice) >>= Plan.collect).run st).1.isOk := by
  rw [evaluate_select]
  cases ((p.plan.fromEmpty (c.withDataset choice) >>= Plan.collect).run st).1 <;> rfl

/-- The solutions of a query that succeeds are those collected, with the variables in scope. -/
theorem exists_collected_of_select {choice : Option QueryDataset} {vs : List Variable} {rows : List Solution}
    (h : ((evaluate c ⟨.select, p, choice⟩).run st).1 = .ok (.solutions vs rows)) :
    vs = p.inScope ∧ ∃ found, ((p.plan.fromEmpty (c.withDataset choice) >>= Plan.collect).run st).1 = .ok found ∧
      rows = found.map (·.project p.inScope) := by
  rw [evaluate_select] at h
  cases hfound : ((p.plan.fromEmpty (c.withDataset choice) >>= Plan.collect).run st).1 with
  | error e =>
    rw [hfound] at h
    cases h
  | ok found =>
    rw [hfound] at h
    obtain ⟨hvs, hrows⟩ := QueryResult.solutions.inj (Except.ok.inj h)
    exact ⟨hvs.symm, found, rfl, hrows.symm⟩

/-- What can be looked up for a query is what its pattern has there: no graph is created on the way, and what has been
kept is current and told apart. -/
structure Settled (c : Scope) (st : Store) (q : Query) : Prop where
  /-- No graph is created on the way. -/
  createsNone : ∀ x ∈ q.touches c, x.CreatesNone st.dataset
  /-- Nothing has been kept, or what has been kept is current and told apart. -/
  kept : st.cache = none ∨ ToldApart st.dataset (q.lookups c st.dataset) ∧
    ∀ e ∈ st.kept, Current st.dataset (q.lookups c st.dataset) e

/-- If nothing is created and what is kept is current, a plan runs undisturbed. -/
theorem Settled.exists_undisturbed (h : Settled c st ⟨.select, p, some r⟩) (hb : c.settings.hints.batchSize < 2 ^ 64) :
    ∃ P : Store → Prop, P st ∧
      (c.withDataset (some r)).Undisturbed P st.dataset (.union r.default) (p.touches (.union r.default)) := by
  obtain ⟨P, hP, hdataset, hanswers⟩ := Pattern.exists_answers (c := c.withDataset (some r)) h.kept
  have hharmless := Touch.harmless_of_answers hanswers h.createsNone
  exact ⟨P, hP, hdataset, hb, nofun, fun _ hs => hs, fun x hx => hharmless x (List.mem_append_left _ hx)⟩

/-- What is collected is the bag that the pattern makes of the empty row. -/
theorem ends_of_meansAlike {F : Rows} (hF : p.MeansAlike listed early st.dataset .nothing c F)
    {P : Store → Prop} {e : Scope} {a : ActiveGraph} (hsame : Scope.SameGraphs listed st.dataset c e)
    (hu : e.Undisturbed P st.dataset a (p.touches a)) (hP : P st) :
    let collected := ((p.plan.fromEmpty e >>= Plan.collect).run st).1
    (early = true → collected.isOk = true) ∧
    ∀ found, collected = .ok found → (found : Multiset Solution) = F {.empty} := by
  have hends := Plan.collected ((hF P e a hsame hu).single Known.holds_nothing hP) hP
  have hfrom : (p.plan.fromEmpty e >>= Plan.collect).run st =
      (p.plan e (.ofList [.empty]) >>= Plan.collect).run st := rfl
  rw [hfrom]
  rcases hrun : (p.plan e (.ofList [.empty]) >>= Plan.collect).run st with ⟨x | found, t⟩
  · rw [hrun] at hends
    have hlate : early = false := hends.2
    exact ⟨fun hearly => absurd hearly (by simp [hlate]), nofun⟩
  · rw [hrun] at hends
    exact ⟨fun _ => rfl, fun _ hfound => Except.ok.inj hfound ▸ hends.2⟩

/-- Nothing is collected where the plan is refused. -/
theorem exists_error_of_refused {P : Store → Prop} {e : Scope} {a : ActiveGraph}
    (hu : e.Undisturbed P st.dataset a (p.touches a)) (hP : P st)
    (h : p.builds e.compiler (e.canSee st.dataset) = false) :
    ∃ x, ((p.plan.fromEmpty e >>= Plan.collect).run st).1 = .error x := by
  have hdecided := hu.decided_plan hP (.ofList [.empty])
  rw [h] at hdecided
  obtain ⟨x, hx⟩ := hdecided.exists_of_false
  exact ⟨x, by rw [Build.run_bind, Plan.fromEmpty, hx]⟩

/-- There is one bag of solutions for all choices of the same graphs. If failures are early, whether it is found can be
read off the pattern. -/
theorem exists_bag_of_choice (hp : p.isOrderless listed early .nothing = true)
    (hb : c.settings.hints.batchSize < 2 ^ 64) (st : Store) (q : QueryDataset) :
    ∃ (ok : Bool) (W : Multiset Solution), ∀ r, q.SameGraphs listed r → Settled c st ⟨.select, p, some r⟩ →
      let collected := ((p.plan.fromEmpty (c.withDataset (some r)) >>= Plan.collect).run st).1
      (early = true → collected.isOk = ok) ∧ ∀ found, collected = .ok found → (found : Multiset Solution) = W := by
  by_cases hbuilds : early = true → p.builds c.compiler ((c.withDataset (some q)).canSee st.dataset) = true
  · obtain ⟨F, -, hF⟩ := p.exists_meansAlike listed early st.dataset .nothing hp (c.withDataset (some q)) nofun hbuilds
    refine ⟨true, F {.empty}, fun r hr hsettled => ?_⟩
    obtain ⟨P, hP, hu⟩ := hsettled.exists_undisturbed hb
    exact ends_of_meansAlike hF (hr.scope c st.dataset) hu hP
  · obtain ⟨-, hrefused⟩ := Classical.not_imp.1 hbuilds
    refine ⟨false, 0, fun r hr hsettled => ?_⟩
    obtain ⟨P, hP, hu⟩ := hsettled.exists_undisturbed hb
    rw [(hr.scope c st.dataset).canSee] at hrefused
    obtain ⟨x, hx⟩ := exists_error_of_refused hu hP (Bool.eq_false_iff.2 hrefused)
    rw [hx]
    exact ⟨fun _ => rfl, nofun⟩

/-- The clauses that choose the graphs of a query are sets: naming the same graphs in another order, or more often, does
not change the variables or the bag of the solutions, and, if failures are early, not whether the query fails either. -/
theorem solutions_of_same_graphs (hp : p.isOrderless listed early .nothing = true) (hsame : q.SameGraphs listed r)
    (hb : c.settings.hints.batchSize < 2 ^ 64) (hq : Settled c st ⟨.select, p, some q⟩)
    (hr : Settled c st ⟨.select, p, some r⟩) :
    let answer := fun choice => ((evaluate c ⟨.select, p, some choice⟩).run st).1
    (early = true → (answer q).isOk = (answer r).isOk) ∧
    ∀ vs ws rows others, answer q = .ok (.solutions vs rows) → answer r = .ok (.solutions ws others) →
      vs = ws ∧ rows.Perm others := by
  intro answer
  obtain ⟨ok, W, hW⟩ := exists_bag_of_choice hp hb st q
  obtain ⟨hok, hbag⟩ := hW q (.refl listed q) hq
  obtain ⟨hok', hbag'⟩ := hW r hsame hr
  refine ⟨fun hearly => ?_, fun vs ws rows others hrows hothers => ?_⟩
  · exact (isOk_evaluate_select _).trans ((hok hearly).trans ((isOk_evaluate_select _).trans (hok' hearly)).symm)
  · obtain ⟨rfl, found, hfound, rfl⟩ := exists_collected_of_select hrows
    obtain ⟨rfl, found', hfound', rfl⟩ := exists_collected_of_select hothers
    exact ⟨rfl, (Multiset.coe_eq_coe.1 ((hbag found hfound).trans (hbag' found' hfound').symm)).map _⟩

/-- Two graphs, in the other order and one of them twice: who knows whom in one of them, with the graphs that have a
name for the second one. -/
theorem solutions_of_same_graphs_acquaintances :
    let one : Iri := ⟨"http://example.com/one"⟩
    let two : Iri := ⟨"http://example.com/two"⟩
    let knows : Iri := ⟨"http://example.com/knows"⟩
    let name : Iri := ⟨"http://example.com/name"⟩
    let s : Variable := ⟨"s"⟩
    let o : Variable := ⟨"o"⟩
    let g : Variable := ⟨"g"⟩
    let n : Variable := ⟨"n"⟩
    let a : Resource := .iri ⟨"http://example.com/a"⟩
    let b : Resource := .iri ⟨"http://example.com/b"⟩
    let ann : Term := .literal (.string "Ann")
    let bob : Term := .literal (.string "Bob")
    let graph (iri : Iri) (ts : List Triple) : Iri × Graph := (iri, (Graph.empty iri ⟨true, true⟩).insertAll ts)
    let graphs := [graph one [⟨a, knows, b.toTerm⟩, ⟨b, name, bob⟩],
      graph two [⟨a, knows, b.toTerm⟩, ⟨b, knows, a.toTerm⟩, ⟨a, name, ann⟩]]
    let st : Store := ⟨⟨.empty defaultGraphIri ⟨true, true⟩, graphs, fun _ => ⟨true, true⟩⟩, none, 0⟩
    let c : Scope := ⟨⟨.streaming, ⟨2, .structural, true⟩⟩, ⟨[], .iri name⟩, .default, none⟩
    let p : Pattern :=
      .join (.bgp [⟨.var s, .iri knows, .var o⟩]) (.graph (.var g) (.bgp [⟨.var o, .iri name, .var n⟩]))
    let q : QueryDataset := ⟨[one, two], some [one, two]⟩
    let r : QueryDataset := ⟨[two, one, two], some [two, one]⟩
    let answer := fun choice => ((evaluate c ⟨.select, p, some choice⟩).run st).1
    let row (t u : Resource) (iri : Iri) (m : Term) : Solution :=
      (((Solution.empty.insert s t.toTerm).insert o u.toTerm).insert g (.iri iri)).insert n m
    let rows := [row a b one bob, row b a two ann]
    let others := [row b a two ann, row a b one bob]
    (p.isOrderless true true .nothing = true ∧ q.SameGraphs true r ∧ c.settings.hints.batchSize < 2 ^ 64 ∧
      Settled c st ⟨.select, p, some q⟩ ∧ Settled c st ⟨.select, p, some r⟩) ∧
      answer q = .ok (.solutions [s, o, g, n] rows) ∧ answer r = .ok (.solutions [s, o, g, n] others) ∧
      (answer q).isOk = (answer r).isOk ∧ rows.Perm others := by
  intro one two knows name s o g n a b ann bob graph graphs st c p q r answer row rows others
  have hp : p.isOrderless true true .nothing = true := by decide +kernel
  have hsame : q.SameGraphs true r :=
    ⟨fun iri => by simp only [q, r, List.mem_cons, List.not_mem_nil, or_false]; tauto,
      .some fun iri => by simp [or_comm], fun _ => .some (.swap two one [])⟩
  have hsettled : ∀ choice, Settled c st ⟨.select, p, some choice⟩ := fun choice =>
    ⟨fun x hx => p.createsNone_of_isLocal (by decide) _ x (by simpa [touches] using hx), .inl rfl⟩
  have hq : answer q = .ok (.solutions [s, o, g, n] rows) := by decide +kernel
  have hr : answer r = .ok (.solutions [s, o, g, n] others) := by decide +kernel
  obtain ⟨hok, hperm⟩ := solutions_of_same_graphs hp hsame (by decide) (hsettled q) (hsettled r)
  exact ⟨⟨hp, hsame, by decide, hsettled q, hsettled r⟩, hq, hr, hok rfl, (hperm _ _ _ _ hq hr).2⟩

/-! ## Where an order matters -/

/-- Two hits of the same relevance are ranked in the order in which they are found, which is that of the graphs. So a
bound on the rank leaves another hit when the graphs are named in another order. -/
theorem rank_depends_on_order :
    let one : Iri := ⟨"http://example.com/one"⟩
    let two : Iri := ⟨"http://example.com/two"⟩
    let site : Iri := ⟨"http://example.com/site"⟩
    let a : Resource := .iri ⟨"http://example.com/a"⟩
    let b : Resource := .iri ⟨"http://example.com/b"⟩
    let s : Variable := ⟨"s"⟩
    let x : Variable := ⟨"x"⟩
    let cat : Term := .literal (.string "cat")
    let graph (iri : Iri) (t : Triple) : Iri × Graph := (iri, (Graph.empty iri ⟨true, true⟩).insert t)
    let graphs := [graph one ⟨a, site, cat⟩, graph two ⟨b, site, cat⟩]
    let st : Store := ⟨⟨.empty defaultGraphIri ⟨true, true⟩, graphs, fun _ => ⟨true, true⟩⟩, none, 0⟩
    let c : Scope := ⟨⟨.vectorized, ⟨1, .structural, false⟩⟩, ⟨[], .iri site⟩, .default, none⟩
    let ps : List TriplePattern := [⟨.var s, .iri site, .var x⟩, ⟨.var x, .iri SearchVocabulary.search, .term cat⟩,
      ⟨.var x, .iri SearchVocabulary.maxRank, .term (.literal (.string "0"))⟩]
    let answer := fun iris => ((evaluate c ⟨.select, .bgp ps, some ⟨iris, none⟩⟩).run st).1
    let row (t : Resource) : Solution := (Solution.empty.insert s t.toTerm).insert x cat
    answer [one, two] = .ok (.solutions [s, x] [row a]) ∧ answer [two, one] = .ok (.solutions [s, x] [row b]) := by
  intro one two site a b s x cat graph graphs st c ps answer row
  let q : Search := ⟨⟨.var s, .iri site, .var x⟩, x, ["cat"], false, none, none, none, some 0⟩
  have hsearch : ∀ (iris : List Iri) (found : List Triple) (hits : List Hit) (rows : List Solution),
      iris.filter st.dataset.hasNamed = iris →
      KeySet.firstsOn id (iris.flatMap fun iri => (st.dataset.graph (.named iri)).find q.pattern) = found →
      q.rankHits (found.filterMap (q.score? .object)) = hits →
      (hits.filterMap (BoundSearch.join? ⟨q, none, none⟩ .empty q.pattern)).map (·.project [s, x]) = rows →
      answer iris = .ok (.solutions [s, x] rows) := by
    intro iris found hits rows hthere hfound hhits hrows
    have hplan : SearchPlan.ofPatterns (ps.map HiddenVariable.replace) = .ok ⟨[], [⟨q, none, none⟩]⟩ := by
      decide +kernel
    have hfind := GraphRef.yields_find_vectorized (P := fun u => u.dataset = st.dataset) (fun _ h => h) q.pattern iris
    rw [hfound] at hfind
    have hyields : Yields _ _ _ := BoundSearch.yields_run (q := ⟨q, none, none⟩) (s := .empty) .vectorized
      (by decide +kernel) rfl rfl hfind hhits
    have hanswer := evaluate_search (c := c) none hplan (by decide +kernel) hthere hyields rfl
    have hscope : (Pattern.bgp ps).inScope = [s, x] := by decide +kernel
    rw [hscope] at hanswer
    exact hrows ▸ hanswer
  have hscored : ∀ t ∈ [a, b], ∀ u ∈ [a, b], [⟨t, site, cat⟩, ⟨u, site, cat⟩].filterMap (q.score? .object) =
      [⟨⟨t, site, cat⟩, Binary.ofInt 1, -1⟩, ⟨⟨u, site, cat⟩, Binary.ofInt 1, -1⟩] := by decide +kernel
  have hfirst : ∀ t ∈ [a, b], ∀ u ∈ [a, b],
      q.rankHits ([⟨t, site, cat⟩, ⟨u, site, cat⟩].filterMap (q.score? .object)) =
        [⟨⟨t, site, cat⟩, Binary.ofInt 1, 0⟩] := by
    intro t ht u hu
    have hsame : Double.order (Binary.ofInt 1) (Binary.ofInt 1) ≠ .gt := by decide +kernel
    rw [hscored t ht u hu, Search.rankHits_pair q hsame]
    rfl
  constructor
  · exact hsearch _ _ _ _ (by decide +kernel) (by decide +kernel) (hfirst a (by simp) b (by simp)) (by decide +kernel)
  · exact hsearch _ _ _ _ (by decide +kernel) (by decide +kernel) (hfirst b (by simp) a (by simp)) (by decide +kernel)

/-- A silent service delivers what comes before its first failure, so another order of the graphs leaves other rows. -/
theorem silent_service_depends_on_order :
    let one : Iri := ⟨"http://example.com/one"⟩
    let two : Iri := ⟨"http://example.com/two"⟩
    let site : Iri := ⟨"http://example.com/site"⟩
    let a : Resource := .iri ⟨"http://example.com/a"⟩
    let b : Resource := .iri ⟨"http://example.com/b"⟩
    let s : Variable := ⟨"s"⟩
    let x : Variable := ⟨"x"⟩
    let graph (iri : Iri) (t : Triple) : Iri × Graph := (iri, (Graph.empty iri ⟨true, true⟩).insert t)
    -- The object of the second graph is no name of a service.
    let graphs := [graph one ⟨a, site, .iri one⟩, graph two ⟨b, site, .literal (.string "cat")⟩]
    let st : Store := ⟨⟨.empty defaultGraphIri ⟨true, true⟩, graphs, fun _ => ⟨true, true⟩⟩, none, 0⟩
    let c : Scope := ⟨⟨.streaming, ⟨1, .structural, false⟩⟩, ⟨[], .iri site⟩, .default, none⟩
    let p : Pattern := .join (.bgp [⟨.var s, .iri site, .var x⟩]) (.service (.var x) (.bgp []) true)
    let answer := fun iris => ((evaluate c ⟨.select, p, some ⟨iris, none⟩⟩).run st).1
    let row : Solution := (Solution.empty.insert s a.toTerm).insert x (.iri one)
    answer [one, two] = .ok (.solutions [s, x] [row]) ∧ answer [two, one] = .ok (.solutions [s, x] []) := by
  decide +kernel

/-- A graph that a service creates for one row is there for the rows that come after it, and in another order of the
graphs these are other rows. -/
theorem created_graph_depends_on_order :
    let one : Iri := ⟨"http://example.com/one"⟩
    let two : Iri := ⟨"http://example.com/two"⟩
    let new : Iri := ⟨"http://example.com/new"⟩
    let site : Iri := ⟨"http://example.com/site"⟩
    let a : Resource := .iri ⟨"http://example.com/a"⟩
    let b : Resource := .iri ⟨"http://example.com/b"⟩
    let s : Variable := ⟨"s"⟩
    let x : Variable := ⟨"x"⟩
    let g : Variable := ⟨"g"⟩
    let graph (iri : Iri) (t : Triple) : Iri × Graph := (iri, (Graph.empty iri ⟨true, true⟩).insert t)
    let graphs := [graph one ⟨a, site, .iri one⟩, graph two ⟨b, site, .iri new⟩]
    let st : Store := ⟨⟨.empty defaultGraphIri ⟨true, true⟩, graphs, fun _ => ⟨true, true⟩⟩, none, 0⟩
    let c : Scope := ⟨⟨.streaming, ⟨1, .structural, false⟩⟩, ⟨[], .iri site⟩, .default, none⟩
    let p : Pattern := .join (.bgp [⟨.var s, .iri site, .var x⟩])
      (.union (.project (.graph (.var g) (.bgp [])) [g]) (.service (.var x) (.bgp []) false))
    let answer := fun iris => ((evaluate c ⟨.select, p, some ⟨iris, some [new]⟩⟩).run st).1
    let row (t : Resource) (u : Iri) : Solution := (Solution.empty.insert s t.toTerm).insert x (.iri u)
    answer [one, two] = .ok (.solutions [s, x, g] [row a one, row b new]) ∧
      answer [two, one] = .ok (.solutions [s, x, g] [row b new, (row a one).insert g (.iri new), row a one]) := by
  decide +kernel

/-! ## Graphs that are named twice -/

/-- A variable goes through the graphs by the names that are listed: the solutions are those of each listed graph, and
they come as often as it is listed. The choice is one of sets and every other use of the list counts a graph once, so
the repetitions should have been removed here as well. -/
theorem graph_variable_goes_through_list {v : Variable} {iris listed : List Iri} (hp : p.Positive)
    (hb : c.settings.hints.batchSize < 2 ^ 64)
    (h : Settled c st ⟨.select, .graph (.var v) p, some ⟨iris, some listed⟩⟩) :
    let e := c.withDataset (some ⟨iris, some listed⟩)
    let scope := (Pattern.graph (.var v) p).inScope
    ∃ (rows : List Solution) (each : Iri → List Solution),
      ((evaluate c ⟨.select, .graph (.var v) p, some ⟨iris, some listed⟩⟩).run st).1 = .ok (.solutions scope rows) ∧
      (∀ iri ∈ listed, st.dataset.hasNamed iri = true →
        ((p.plan (e.withActive (.named iri)) (.ofList [Solution.empty.insert v (.iri iri)]) >>= Plan.collect).run
          st).1 = .ok (each iri)) ∧
      rows.Perm ((listed.filter st.dataset.hasNamed).flatMap fun iri => (each iri).map (·.project scope)) := by
  intro e scope
  obtain ⟨P, hst, hP, hall⟩ := Pattern.exists_answers (c := e) h.kept
  have hanswers : Pattern.Answers P e st.dataset (p.touches (.bound v)) := by
    have hleft := hall.left
    rwa [Pattern.touches] at hleft
  have hsee : ∀ iri, e.canSee st.dataset iri = true ↔ iri ∈ listed ∧ st.dataset.hasNamed iri = true := by
    intro iri
    simp [e, Scope.canSee, Scope.withDataset]
  obtain ⟨each, heach⟩ := hp.exists_each hP hst hanswers hb
  have hgraph : Build.Gives False st (fun stage => Within P False stage
      ((e.namedGraphs st.dataset : Multiset Iri).bind fun iri =>
        p.rows (e.leafRows st.dataset) e.compiler (.named iri)
          (Solution.join (↑[Solution.empty]) {Solution.empty.insert v (.iri iri)})))
      (Plan.graph (.var v) p.plan e (.ofList [Solution.empty])) := by
    -- The empty solution binds nothing, so the graphs are gone through.
    refine Plan.gives_graph_var (hp.means_bound hP hanswers hb) (fun hfirst => ?_) (fun _ => ?_) hst
    · obtain ⟨s, hs, hbinds⟩ := hfirst
      obtain rfl := Option.mem_some.1 hs
      exact absurd hbinds Bool.false_ne_true
    · exact Plan.within_fanOut hP (fun _ hsee => hp.means_named hP hanswers hb hsee) (fun _ _ _ => trivial)
        (.ofList [Solution.empty])
  obtain ⟨found, hfound, hbag⟩ := Plan.exists_collected hgraph hst
  refine ⟨found.map (·.project scope), fun iri => each iri (Solution.empty.insert v (.iri iri)), ?_, ?_, ?_⟩
  · rw [evaluate_select, Plan.fromEmpty, Pattern.plan, hfound]
    rfl
  · exact fun iri hiri hthere => (heach iri _ ((hsee iri).2 ⟨hiri, hthere⟩)).1
  · rw [← Multiset.coe_eq_coe, ← Multiset.map_coe, hbag, Multiset.map_bind, ← Multiset.coe_bind]
    refine Multiset.bind_congr fun iri hiri => ?_
    rw [Multiset.coe_singleton, empty_join, ← (heach iri _ (Scope.mem_namedGraphs_iff.1 hiri)).2, Multiset.map_coe]

/-- A graph that is listed twice is gone through twice. -/
example :
    let one : Iri := ⟨"http://example.com/one"⟩
    let g : Variable := ⟨"g"⟩
    let graphs := [(one, Graph.empty one ⟨true, true⟩)]
    let st : Store := ⟨⟨.empty defaultGraphIri ⟨true, true⟩, graphs, fun _ => ⟨true, true⟩⟩, none, 0⟩
    let c : Scope := ⟨⟨.streaming, ⟨1, .structural, false⟩⟩, ⟨[], .iri one⟩, .default, none⟩
    let answer := fun listed => ((evaluate c ⟨.select, .graph (.var g) (.bgp []), some ⟨[], some listed⟩⟩).run st).1
    let row : Solution := Solution.empty.insert g (.iri one)
    answer [one] = .ok (.solutions [g] [row]) ∧ answer [one, one] = .ok (.solutions [g] [row, row]) := by
  decide +kernel

end Query

end SparqlAlgebra

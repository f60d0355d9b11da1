import SparqlAlgebra.Proofs.Plan.Similar

/-!
# What a plan touches

A plan changes the dataset only by creating the graphs that stand for services, and it looks at kept solutions only
where it evaluates a basic graph pattern from scratch. Both can be read off the pattern, together with the graphs
in which the patterns are looked up. If nothing that a pattern touches shows a difference between two stores, its
whole plan shows none, whatever patterns and expressions it is made of.
-/

namespace SparqlAlgebra

open Stage

variable {R : Store → Store → Prop} {c : Scope}

namespace Scope

/-- The references that an active graph may stand for. -/
def Shows (c : Scope) (d : Dataset) (r : GraphRef) : ActiveGraph → Prop
  | .default => r = .single .default
  | .named iri => d.hasNamed iri = true ∧ r = .single (.named iri)
  | .union iris => r = .union ((iris.filter d.hasNamed).map fun iri => .single (.named iri))
  | .bound _ => ∃ iri, c.canSee d iri = true ∧ r = .single (.named iri)

/-- In all related stores an active graph stands for nothing that another one does not stand for. -/
def Covers (R : Store → Store → Prop) (c : Scope) (a b : ActiveGraph) : Prop :=
  ∀ s t r, R s t → c.Shows s.dataset r b → c.Shows s.dataset r a

/-- An active graph covers itself. -/
theorem Covers.refl (a : ActiveGraph) : Covers R c a a := fun _ _ _ _ h => h

/-- A graph that can be seen is one of those that a variable may stand for. -/
theorem Covers.bound (v : Variable) {d : Dataset} {iri : Iri} (h : c.canSee d iri = true) :
    Covers R c (.bound v) (.named iri) := by
  intro s t r _ hr
  obtain ⟨hn, rfl⟩ := hr
  refine ⟨iri, ?_, rfl⟩
  rw [canSee, Bool.and_eq_true] at h ⊢
  exact ⟨h.1, hn⟩

/-- A row in the graph that it names shows no difference if that graph does not. -/
theorem similar_onBoundGraph (hd : ∀ s t, R s t → s.dataset = t.dataset) (v : Variable)
    {evaluate : Flow Solution → GraphRef → Flow Solution}
    (he : ∀ s t r, R s t → c.Shows s.dataset r (.bound v) →
      ∀ f g, Stage.Similar R f g → Stage.Similar R (evaluate f r) (evaluate g r)) (x : Solution) :
    SelfSimilar R (c.onBoundGraph v evaluate x) := by
  refine .read fun s t hR => ?_
  rw [← hd s t hR]
  split
  · rename_i iri _
    split
    · rename_i hsee
      exact he s t _ hR ⟨iri, hsee, rfl⟩ _ _ (.ofList _) s t hR
    · exact .done hR
  · exact .done hR
  · refine c.engine.similar_merge (List.forall₂_same.2 fun f hf => ?_) s t hR
    obtain ⟨iri, hiri, rfl⟩ := List.mem_map.1 hf
    exact he s t _ hR ⟨iri, mem_namedGraphs_iff.1 hiri, rfl⟩ _ _ (.ofList _)

/-- Rows in the active graph show no difference if nothing that it stands for does. -/
theorem similar_onActiveGraph (hd : ∀ s t, R s t → s.dataset = t.dataset)
    {evaluate : Flow Solution → GraphRef → Flow Solution}
    (he : ∀ s t r, R s t → c.Shows s.dataset r c.active →
      ∀ f g, Stage.Similar R f g → Stage.Similar R (evaluate f r) (evaluate g r))
    {f g : Flow Solution} (hfg : Stage.Similar R f g) :
    Build.Similar R (Stage.Similar R) (c.onActiveGraph f evaluate) (c.onActiveGraph g evaluate) := by
  refine Build.Similar.get.bind fun s t hR => ?_
  rw [← hd s t hR]
  obtain ⟨settings, compiler, active, visible⟩ := c
  cases active with
  | default => exact .pure (he s t _ hR rfl f g hfg)
  | named iri =>
    by_cases hn : s.dataset.hasNamed iri = true
    · have ha : (Scope.mk settings compiler (.named iri) visible).activeGraph? s.dataset =
          .ok (some (.single (.named iri))) := if_pos hn
      rw [ha]
      exact .pure (he s t _ hR ⟨hn, rfl⟩ f g hfg)
    · have ha : (Scope.mk settings compiler (.named iri) visible).activeGraph? s.dataset =
          .error (.graphMissing iri) := if_neg hn
      rw [ha]
      exact .throw _
  | union iris => exact .pure (he s t _ hR rfl f g hfg)
  | bound v => exact .pure (Engine.similar_mergeMap _ (similar_onBoundGraph hd v he) hfg)

end Scope

/-! ## Patterns at the leaves -/

/-- A search shows no difference between stores with the same triples. -/
theorem Search.similar_run {g : Engine} {r : GraphRef} {q : Search} {f : Flow Hit}
    (h : ∀ s t, R s t → r.SameIn s.dataset t.dataset) (hf : q.run g r = .ok f) : Stage.Similar R f f := by
  unfold run at hf
  split at hf
  · cases hf
  · cases hf
  · obtain rfl := Except.ok.inj hf
    have hscored := fun place => g.similar_filterMap (q.score? place) (GraphRef.similar_find g q.pattern r h)
    split
    · exact g.similar_rearrange _ (hscored _)
    · exact hscored _

/-- What one solution finds with the hits of a search. -/
theorem BoundSearch.similar_found (g : Engine) {r : GraphRef} (q : BoundSearch)
    (h : ∀ s t, R s t → r.SameIn s.dataset t.dataset) (p : TriplePattern) (x : Solution) :
    SelfSimilar R
      (match Search.run g r { q.query with pattern := p } with
        | .ok hits => g.filterMap (q.join? x p) hits
        | .error e => .fail e) := by
  split
  · rename_i hits hh
    exact g.similar_filterMap _ (Search.similar_run h hh)
  · exact .fail _

/-- A search shows no difference for a whole source of rows. -/
theorem BoundSearch.similar_run (g : Engine) {r : GraphRef} (q : BoundSearch)
    (h : ∀ s t, R s t → r.SameIn s.dataset t.dataset) {a b : Flow Solution} (hab : Stage.Similar R a b) :
    Stage.Similar R (q.run g r a) (q.run g r b) :=
  g.similar_mergeMap (fun x => q.similar_found g h (q.patternFor x) x) hab

/-- A plan of searches shows no difference if the patterns that it looks up do not. -/
theorem SearchPlan.similar_run {k : Settings} {r : GraphRef} {plan : SearchPlan}
    (h : ∀ s t, R s t → r.SameIn s.dataset t.dataset)
    (hc : plan.patterns.isEmpty = false →
      Stage.Similar R (Join.cachedBgp k r plan.patterns) (Join.cachedBgp k r plan.patterns))
    {a b : Flow Solution} (hab : Stage.Similar R a b) :
    Stage.Similar R (plan.run k a r) (plan.run k b r) := by
  have hjoined : Stage.Similar R (if plan.patterns.isEmpty then a else Join.bound k r plan.patterns a)
      (if plan.patterns.isEmpty then b else Join.bound k r plan.patterns b) := by
    split
    · exact hab
    · rename_i hp
      exact Join.similar_bound h (hc (by simpa using hp)) hab
  have hfold : ∀ (qs : List BoundSearch) {a b : Flow Solution}, Stage.Similar R a b →
      Stage.Similar R (qs.foldl (fun stage q => q.run k.engine r stage) a)
        (qs.foldl (fun stage q => q.run k.engine r stage) b) := by
    intro qs
    induction qs with
    | nil => exact fun hab => hab
    | cons q qs ih => exact fun hab => ih (q.similar_run k.engine h hab)
  exact hfold plan.searches hjoined

/-- What one solution finds along a path. -/
theorem PathPattern.similar_found (hd : ∀ s t, R s t → s.dataset = t.dataset) (g : Engine) (r : GraphRef)
    (p : PathPattern) (x : Solution) :
    SelfSimilar R
      (.read fun st => g.filterMap x.merge? <| .ofList <|
        Path.solutions (r.triples st.dataset) (p.subject.bind x) p.path (p.object.bind x) : Flow Solution) := by
  refine .read fun s t hR => ?_
  rw [hd s t hR]
  exact g.similar_filterMap _ (.ofList _) s t hR

/-- A path shows no difference between stores with the same dataset. -/
theorem PathPattern.similar_run (hd : ∀ s t, R s t → s.dataset = t.dataset) (g : Engine) (r : GraphRef)
    (p : PathPattern) {a b : Flow Solution} (hab : Stage.Similar R a b) : Stage.Similar R (p.run g r a) (p.run g r b) :=
  g.similar_mergeMap (p.similar_found hd g r) hab

/-- Hiding variables shows no difference. -/
theorem HiddenVariable.similar_strip (g : Engine) (vs : List Variable) {a b : Flow Solution}
    (hab : Stage.Similar R a b) : Stage.Similar R (strip g vs a) (strip g vs b) := by
  unfold strip
  split
  · exact hab
  · exact g.similar_map _ hab

namespace Plan

/-- The patterns that are looked up for a basic graph pattern, if any are. -/
def lookedUp (ps : List TriplePattern) : List (List TriplePattern) :=
  match SearchPlan.ofPatterns (ps.map HiddenVariable.replace) with
  | .ok plan => if plan.patterns.isEmpty then [] else [plan.patterns]
  | .error _ => []

/-- A basic graph pattern shows no difference if its look-ups do not. -/
theorem similar_bgp (hd : ∀ s t, R s t → s.dataset = t.dataset) (ps : List TriplePattern)
    (h : ∀ qs ∈ lookedUp ps, ∀ s t r, R s t → c.Shows s.dataset r c.active →
      Stage.Similar R (Join.cachedBgp c.settings r qs) (Join.cachedBgp c.settings r qs)) :
    Plan.Similar R c (bgp ps) := by
  intro f g hfg
  unfold lookedUp at h
  unfold bgp
  split
  · exact .throw _
  · rename_i plan hplan
    rw [hplan] at h
    refine (Scope.similar_onActiveGraph hd (fun s t r hR hr a b hab => ?_) hfg).bind fun f g hfg => ?_
    · refine SearchPlan.similar_run (fun s t hR => .of_eq r (hd s t hR)) (fun hp => ?_) hab
      exact h plan.patterns (by simp [hp]) s t r hR hr
    · exact .pure (HiddenVariable.similar_strip _ _ hfg)

/-- Paths show no difference at all. -/
theorem similar_paths (hd : ∀ s t, R s t → s.dataset = t.dataset) (ps : List PathPattern) :
    Plan.Similar R c (paths ps) := by
  intro f g hfg
  refine (Scope.similar_onActiveGraph hd (fun _ _ r _ _ => ?_) hfg).bind fun f g hfg => ?_
  · induction ps with
    | nil => exact fun _ _ hab => hab
    | cons p ps ih => exact fun _ _ hab => ih _ _ (p.hide.similar_run hd _ r hab)
  · exact .pure (HiddenVariable.similar_strip _ _ hfg)

/-! ## Patterns in other graphs -/

variable {p : Plan} {s t : Store}

/-- In each of some graphs the rows have the same items, and building the plans leaves related stores. -/
theorem similar_inEachGraph (v : Variable) (rows : List Solution) {iris : List Iri}
    (hp : ∀ iri ∈ iris, Plan.Similar R (c.withActive (.named iri)) p) (hR : R s t) :
    List.Forall₂ (Stage.Similar R) (inEachGraph c v p rows iris s).1 (inEachGraph c v p rows iris t).1 ∧
      R (inEachGraph c v p rows iris s).2 (inEachGraph c v p rows iris t).2 := by
  induction iris generalizing s t with
  | nil => exact ⟨.nil, hR⟩
  | cons iri iris ih =>
    obtain ⟨hf, hs⟩ := similar_now (hp iri List.mem_cons_self _ _
      (.ofList (rows.filterMap fun x => x.merge? (Solution.empty.insert v (.iri iri))))) hR
    obtain ⟨hfs, hu⟩ := ih (fun iri h => hp iri (List.mem_cons_of_mem _ h)) hs
    exact ⟨.cons hf hfs, hu⟩

/-- Going through all graphs shows no difference if none of them does. -/
theorem similar_fanOut (hd : ∀ s t, R s t → s.dataset = t.dataset) (v : Variable)
    (hp : ∀ b, Scope.Covers R c (.bound v) b → Plan.Similar R (c.withActive b) p) {f g : Flow Solution}
    (hfg : Stage.Similar R f g) : Stage.Similar R (fanOut c v p f) (fanOut c v p g) := by
  refine c.engine.similar_mergeMap (fun rows => .act fun s t hR => ?_) (c.engine.similar_gather hfg)
  rw [← hd s t hR]
  have hgraphs : ∀ iri ∈ c.namedGraphs s.dataset, Plan.Similar R (c.withActive (.named iri)) p :=
    fun iri h => hp _ (.bound v (Scope.mem_namedGraphs_iff.1 h))
  obtain ⟨hfs, hs⟩ := similar_inEachGraph v rows hgraphs hR
  exact ⟨c.engine.similar_merge hfs, hs⟩

/-- A graph of a given name shows no difference if its pattern does not there. -/
theorem similar_graph_iri (hd : ∀ s t, R s t → s.dataset = t.dataset) {iri : Iri}
    (hp : Plan.Similar R (c.withActive (.named iri)) p) : Plan.Similar R c (graph (.iri iri) p) := by
  intro f g hfg
  refine Build.Similar.get.bind fun s t hR => ?_
  rw [← hd s t hR]
  split
  · exact hp f g hfg
  · exact .throw _

/-- A graph that a variable names shows no difference, in whichever way the variable is resolved. -/
theorem similar_graph_var (hd : ∀ s t, R s t → s.dataset = t.dataset) {v : Variable}
    (hp : ∀ b, Scope.Covers R c (.bound v) b → Plan.Similar R (c.withActive b) p) :
    Plan.Similar R c (graph (.var v) p) := by
  intro f g hfg
  have hbound := hp (.bound v) (.refl _)
  refine (similar_validate hbound).bind fun _ _ _ => .pure ?_
  refine c.engine.similar_peek (fun first f g hfg => ?_) hfg
  split
  · exact similar_later (hbound f g hfg)
  · exact similar_fanOut hd v hp hfg

/-- Creating a graph of that name on both sides does not end the relation. -/
def Creates (R : Store → Store → Prop) (iri : Iri) : Prop :=
  ∀ s t d, R s t → s.dataset.create iri = .ok d → R (s.withDataset d) (t.withDataset d)

/-- The endpoint of a service shows no difference if creating its graph does not. -/
theorem similar_endpoint (hd : ∀ s t, R s t → s.dataset = t.dataset) {iri : Iri} (hcreate : Creates R iri)
    (hp : Plan.Similar R (c.withActive (.named iri)) p) {f g : Flow Solution} (hfg : Stage.Similar R f g) :
    Build.Similar R (Stage.Similar R) (endpoint c iri p f) (endpoint c iri p g) := by
  refine Build.Similar.get.bind fun s t hR => ?_
  rw [← hd s t hR]
  split
  · rename_i d hd
    have hset := Build.Similar.set (hcreate s t d hR hd)
    exact hset.bind fun _ _ _ => hp f g hfg
  · exact hp f g hfg

/-- Ending at the first failure shows no difference. -/
theorem similar_silence (g : Engine) {a b : Flow Solution} (hab : Stage.Similar R a b) :
    Stage.Similar R (silence g a) (silence g b) := g.similar_recover (fun _ => .done) hab

/-- A service of a given name shows no difference if its endpoint does not. -/
theorem similar_service_iri (hd : ∀ s t, R s t → s.dataset = t.dataset) {iri : Iri} (hcreate : Creates R iri)
    (silent : Bool) (hp : Plan.Similar R (c.withActive (.named iri)) p) :
    Plan.Similar R c (service (.iri iri) p silent) := by
  intro f g hfg
  have hendpoint := similar_endpoint hd hcreate hp hfg
  cases silent with
  | false => exact hendpoint
  | true =>
    refine Build.Similar.get.bind fun s t hR => ?_
    have hrun := hendpoint s t hR
    rcases hf : (endpoint c iri p f).run s with ⟨v, s'⟩
    rcases hg : (endpoint c iri p g).run t with ⟨w, t'⟩
    rw [hf, hg] at hrun
    cases hrun with
    | ok hab hR => exact (Build.Similar.set hR).bind fun _ _ _ => .pure (similar_silence _ hab)
    | error hR => exact (Build.Similar.set hR).bind fun _ _ _ => .pure .done

/-- A service that the rows name shows no difference if no endpoint does. -/
theorem similar_service_var (hd : ∀ s t, R s t → s.dataset = t.dataset) (hcreate : ∀ iri, Creates R iri)
    (v : Variable) (silent : Bool) (hp : ∀ iri, Plan.Similar R (c.withActive (.named iri)) p) :
    Plan.Similar R c (service (.var v) p silent) := by
  intro f g hfg
  have hstage : Stage.Similar R (c.engine.mergeMap (atService c v p) f) (c.engine.mergeMap (atService c v p) g) := by
    refine c.engine.similar_mergeMap (fun x => ?_) hfg
    unfold atService
    split
    · rename_i iri _
      exact similar_later (similar_endpoint hd (hcreate iri) (hp iri) (.ofList [x]))
    · exact .fail _
  refine .pure ?_
  split
  · exact similar_silence _ hstage
  · exact hstage

end Plan

/-! ## Touching -/

/-- What a plan does to a store or reads from it, apart from looking at the dataset and drawing values. -/
inductive Touch where
  /-- The patterns are looked up in an active graph, and the solutions may be kept. -/
  | lookup (active : ActiveGraph) (ps : List TriplePattern)
  /-- The graph of a service is created if it is not there. -/
  | create (iri : Iri)
  /-- Anything may be touched in the graphs of services that only the solutions name. -/
  | anywhere

mutual

/-- What the plan of a pattern touches in an active graph. -/
def Pattern.touches (a : ActiveGraph) : Pattern → List Touch
  | .bgp ps => (Plan.lookedUp ps).map (.lookup a)
  | .path .. => []
  | .join p q => p.touches a ++ q.touches a
  | .leftJoin p q none => p.touches a ++ q.touches a
  | .leftJoin p q (some e) => p.touches a ++ q.touches a ++ e.touches a
  | .filter e inner => e.touches a ++ inner.touches a
  | .union p q => p.touches a ++ q.touches a
  | .minus p q => p.touches a ++ q.touches a
  | .graph (.iri iri) inner => inner.touches (.named iri)
  | .graph (.var v) inner => inner.touches (.bound v)
  | .extend inner _ e => e.touches a ++ inner.touches a
  | .values .. => []
  | .orderBy inner _ => inner.touches a
  | .project inner _ => inner.touches a
  | .distinct inner => inner.touches a
  | .reduced inner => inner.touches a
  | .slice inner .. => inner.touches a
  | .group inner .. => inner.touches a
  | .service (.iri iri) inner _ => .create iri :: inner.touches (.named iri)
  | .service (.var _) .. => [.anywhere]

/-- What the tests of an expression touch. -/
def Expression.touches (a : ActiveGraph) : Expression → List Touch
  | .constant _ => []
  | .var _ => []
  | .or x y => x.touches a ++ y.touches a
  | .and x y => x.touches a ++ y.touches a
  | .not x => x.touches a
  | .equal x y => x.touches a ++ y.touches a
  | .sameTerm x y => x.touches a ++ y.touches a
  | .compare _ x y => x.touches a ++ y.touches a
  | .member x es => x.touches a ++ Expression.touchesOfAll a es
  | .arithmetic _ x y => x.touches a ++ y.touches a
  | .sign _ x => x.touches a
  | .hasSolution p => p.touches a
  | .isBound _ => []
  | .choose x y z => x.touches a ++ y.touches a ++ z.touches a
  | .coalesce es => Expression.touchesOfAll a es
  | .call _ es => Expression.touchesOfAll a es

/-- What the tests of some expressions touch. -/
def Expression.touchesOfAll (a : ActiveGraph) : List Expression → List Touch
  | [] => []
  | e :: es => e.touches a ++ Expression.touchesOfAll a es

end

/-- Touching this does not show a difference between related stores. -/
def Touch.Hides (R : Store → Store → Prop) (c : Scope) : Touch → Prop
  | .lookup a ps => ∀ s t r, R s t → c.Shows s.dataset r a →
      Stage.Similar R (Join.cachedBgp c.settings r ps) (Join.cachedBgp c.settings r ps)
  | .create iri => Plan.Creates R iri
  | .anywhere => (∀ iri, Plan.Creates R iri) ∧
      ∀ r ps, Stage.Similar R (Join.cachedBgp c.settings r ps) (Join.cachedBgp c.settings r ps)

/-- If nothing shows wherever it is touched, nothing shows. -/
theorem Touch.Hides.of_anywhere (h : Touch.Hides R c .anywhere) (x : Touch) : x.Hides R c := by
  cases x with
  | lookup a ps => exact fun _ _ r _ _ => h.2 r ps
  | create iri => exact h.1 iri
  | anywhere => exact h

/-- Nothing that is touched shows a difference between related stores, and nothing that is drawn does. -/
structure Unseen (R : Store → Store → Prop) (c : Scope) (xs : List Touch) (steady : Bool) : Prop where
  /-- What is touched hides the difference. -/
  hides : ∀ x ∈ xs, x.Hides R c
  /-- Nothing is drawn, or stores that go on drawing stay related. -/
  draws : steady = true ∨ Redraws R

namespace Unseen

variable {xs ys : List Touch} {x y : Bool} {a b : ActiveGraph} {inner : Pattern} {e : Expression} {v : Variable}
  {iri : Iri}

/-- Parts are unseen together if each of them is. -/
theorem append_iff : Unseen R c (xs ++ ys) (x && y) ↔ Unseen R c xs x ∧ Unseen R c ys y := by
  constructor
  · rintro ⟨h, hs⟩
    rw [List.forall_mem_append] at h
    rw [Bool.and_eq_true, and_or_right] at hs
    exact ⟨⟨h.1, hs.1⟩, ⟨h.2, hs.2⟩⟩
  · rintro ⟨⟨hx, hxs⟩, ⟨hy, hys⟩⟩
    refine ⟨List.forall_mem_append.2 ⟨hx, hy⟩, ?_⟩
    rw [Bool.and_eq_true, and_or_right]
    exact ⟨hxs, hys⟩

/-- An unseen expression hides what it draws itself. -/
theorem hidesDraws (h : Unseen R c xs (e.isSteady && x)) : e.HidesDraws R c :=
  .of_isSteady (h.draws.imp_left fun hs => (Bool.and_eq_true_iff.1 hs).1)

/-- The tests of an unseen expression are unseen. -/
theorem tests (h : Unseen R c xs (e.isSteady && x)) : Unseen R c xs x :=
  ⟨h.hides, h.draws.imp_left fun hs => (Bool.and_eq_true_iff.1 hs).2⟩

/-- A basic graph pattern whose look-ups are unseen shows nothing in a graph that is covered. -/
theorem bgp (hd : ∀ s t, R s t → s.dataset = t.dataset) {ps : List TriplePattern}
    (h : Unseen R c ((Pattern.bgp ps).touches a) x) (hab : Scope.Covers R c a b) :
    Plan.Similar R (c.withActive b) (Plan.bgp ps) := by
  refine Plan.similar_bgp hd ps fun qs hqs s t r hR hr => ?_
  have hlookup : Touch.Hides R c (.lookup a qs) := h.hides _ (by rw [Pattern.touches]; exact List.mem_map_of_mem hqs)
  exact hlookup s t r hR (hab s t r hR hr)

/-- Ordering shows no difference if neither the rows nor the keys do. -/
theorem orderBy {keys : List SortKey} (h : Unseen R c xs (inner.isSteady && keys.all SortKey.isSteady))
    (hinner : Unseen R c xs inner.isSteady → Plan.Similar R (c.withActive b) inner.plan) :
    Plan.Similar R (c.withActive b) (Plan.orderBy keys inner.plan) := by
  have hs := h.draws
  rw [Bool.and_eq_true, and_or_right, List.all_eq_true] at hs
  refine Plan.similar_orderBy (fun k hk => .of_isSteady ?_) (hinner ⟨h.hides, hs.1⟩)
  rw [k.isSteady_expression]
  exact hs.2.imp_left fun hkeys => hkeys k hk

/-- Grouping shows no difference if neither the rows nor the aggregates do. -/
theorem group (vs : List Variable) {as : List (Variable × Aggregate)}
    (h : Unseen R c xs (inner.isSteady && as.all fun a => a.2.isSteady))
    (hinner : Unseen R c xs inner.isSteady → Plan.Similar R (c.withActive b) inner.plan) :
    Plan.Similar R (c.withActive b) (Plan.group vs as inner.plan) := by
  have hs := h.draws
  rw [Bool.and_eq_true, and_or_right, List.all_eq_true] at hs
  refine Plan.similar_group vs (fun x hx r hr hdraws => ?_) (hinner ⟨h.hides, hs.1⟩)
  exact hs.2.resolve_left fun has => hdraws (Aggregate.draws_eq_zero (has x hx) hr)

/-- A service shows nothing if neither creating its graph nor what is touched there does. -/
theorem service_iri (hd : ∀ s t, R s t → s.dataset = t.dataset) (silent : Bool)
    (h : Unseen R c (.create iri :: xs) x)
    (hinner : Unseen R c xs x → Plan.Similar R (c.withActive (.named iri)) inner.plan) :
    Plan.Similar R (c.withActive b) (Plan.service (.iri iri) inner.plan silent) := by
  obtain ⟨hcreate, hxs⟩ := List.forall_mem_cons.1 h.hides
  exact Plan.similar_service_iri hd hcreate silent (hinner ⟨hxs, h.draws⟩)

/-- A service that the rows name shows nothing if nothing does anywhere. -/
theorem service_var (hd : ∀ s t, R s t → s.dataset = t.dataset) (silent : Bool) (h : Unseen R c [.anywhere] x)
    (hinner : ∀ iri, (∀ ys, Unseen R c ys x) → Plan.Similar R (c.withActive (.named iri)) inner.plan) :
    Plan.Similar R (c.withActive b) (Plan.service (.var v) inner.plan silent) := by
  have hany : Touch.Hides R c .anywhere := h.hides _ List.mem_cons_self
  exact Plan.similar_service_var hd hany.1 v silent fun iri =>
    hinner iri fun _ => ⟨fun x _ => hany.of_anywhere x, h.draws⟩

end Unseen

mutual

/-- A plan shows no difference if nothing that it touches does, and if what it draws does not. -/
theorem Pattern.similar_plan (hd : ∀ s t, R s t → s.dataset = t.dataset) : (p : Pattern) → (a b : ActiveGraph) →
    Unseen R c (p.touches a) p.isSteady → Scope.Covers R c a b → Plan.Similar R (c.withActive b) p.plan
  | .bgp ps, a, b, h, hab => by
    rw [Pattern.plan]
    exact h.bgp hd hab
  | .path x p y, _, _, _, _ => by
    rw [Pattern.plan]
    exact Plan.similar_paths hd _
  | .join p q, a, b, h, hab => by
    rw [Pattern.touches, Pattern.isSteady, Unseen.append_iff] at h
    rw [Pattern.plan]
    exact Plan.similar_join (p.similar_plan hd a b h.1 hab) (q.similar_plan hd a b h.2 hab)
  | .leftJoin p q none, a, b, h, hab => by
    rw [Pattern.touches, Pattern.isSteady, Unseen.append_iff] at h
    rw [Pattern.plan]
    exact Plan.similar_leftJoin (p.similar_plan hd a b h.1 hab) (q.similar_plan hd a b h.2 hab) nofun
  | .leftJoin p q (some e), a, b, h, hab => by
    rw [Pattern.touches, Pattern.isSteady, Unseen.append_iff, Unseen.append_iff] at h
    rw [Pattern.plan]
    refine Plan.similar_leftJoin (p.similar_plan hd a b h.1.1 hab) (q.similar_plan hd a b h.1.2 hab) ?_
    rintro _ ⟨⟩
    exact ⟨h.2.hidesDraws, e.similar_tests hd a b h.2.tests hab⟩
  | .filter e inner, a, b, h, hab => by
    rw [Pattern.touches, Pattern.isSteady, Unseen.append_iff] at h
    rw [Pattern.plan]
    exact Plan.similar_filter h.1.hidesDraws (e.similar_tests hd a b h.1.tests hab) (inner.similar_plan hd a b h.2 hab)
  | .union p q, a, b, h, hab => by
    rw [Pattern.touches, Pattern.isSteady, Unseen.append_iff] at h
    rw [Pattern.plan]
    exact Plan.similar_union (p.similar_plan hd a b h.1 hab) (q.similar_plan hd a b h.2 hab)
  | .minus p q, a, b, h, hab => by
    rw [Pattern.touches, Pattern.isSteady, Unseen.append_iff] at h
    rw [Pattern.plan]
    exact Plan.similar_minus (p.similar_plan hd a b h.1 hab) (q.similar_plan hd a b h.2 hab)
  | .graph (.iri iri) inner, _, _, h, _ => by
    rw [Pattern.touches, Pattern.isSteady] at h
    rw [Pattern.plan]
    exact Plan.similar_graph_iri hd (inner.similar_plan hd (.named iri) (.named iri) h (.refl _))
  | .graph (.var v) inner, _, _, h, _ => by
    rw [Pattern.touches, Pattern.isSteady] at h
    rw [Pattern.plan]
    exact Plan.similar_graph_var hd fun b hb => inner.similar_plan hd (.bound v) b h hb
  | .extend inner v e, a, b, h, hab => by
    rw [Pattern.touches, Pattern.isSteady, Unseen.append_iff] at h
    rw [Pattern.plan]
    exact Plan.similar_extend v h.1.hidesDraws (e.similar_tests hd a b h.1.tests hab)
      (inner.similar_plan hd a b h.2 hab)
  | .values vs rows, _, _, _, _ => by
    rw [Pattern.plan]
    exact Plan.similar_values vs rows
  | .orderBy inner keys, a, b, h, hab => by
    rw [Pattern.touches, Pattern.isSteady] at h
    rw [Pattern.plan]
    exact h.orderBy fun hinner => inner.similar_plan hd a b hinner hab
  | .project inner vs, a, b, h, hab => by
    rw [Pattern.touches, Pattern.isSteady] at h
    rw [Pattern.plan]
    exact Plan.similar_project vs (inner.similar_plan hd a b h hab)
  | .distinct inner, a, b, h, hab | .reduced inner, a, b, h, hab => by
    rw [Pattern.touches, Pattern.isSteady] at h
    rw [Pattern.plan]
    exact Plan.similar_distinct (inner.similar_plan hd a b h hab)
  | .slice inner start length, a, b, h, hab => by
    rw [Pattern.touches, Pattern.isSteady] at h
    rw [Pattern.plan]
    exact Plan.similar_slice start length (inner.similar_plan hd a b h hab)
  | .group inner vs as, a, b, h, hab => by
    rw [Pattern.touches, Pattern.isSteady] at h
    rw [Pattern.plan]
    exact h.group vs fun hinner => inner.similar_plan hd a b hinner hab
  | .service (.iri iri) inner silent, _, _, h, _ => by
    rw [Pattern.touches, Pattern.isSteady] at h
    rw [Pattern.plan]
    exact h.service_iri hd silent fun hinner => inner.similar_plan hd (.named iri) (.named iri) hinner (.refl _)
  | .service (.var v) inner silent, _, _, h, _ => by
    rw [Pattern.touches, Pattern.isSteady] at h
    rw [Pattern.plan]
    exact h.service_var hd silent fun iri hinner =>
      inner.similar_plan hd (.named iri) (.named iri) (hinner _) (.refl _)

/-- The plan of a test of an expression shows no difference if nothing that it touches does. -/
theorem Expression.similar_tests (hd : ∀ s t, R s t → s.dataset = t.dataset) : (e : Expression) →
    (a b : ActiveGraph) → Unseen R c (e.touches a) e.testsAreSteady → Scope.Covers R c a b →
    ∀ p ∈ e.tests, Plan.Similar R (c.withActive b) p
  | .constant _, _, _, _, _ | .var _, _, _, _, _ | .isBound _, _, _, _, _ => by simp [Expression.tests]
  | .or x y, a, b, h, hab | .and x y, a, b, h, hab | .equal x y, a, b, h, hab | .sameTerm x y, a, b, h, hab
  | .compare _ x y, a, b, h, hab | .arithmetic _ x y, a, b, h, hab => by
    rw [Expression.touches, Expression.testsAreSteady, Unseen.append_iff] at h
    rw [Expression.tests, List.forall_mem_append]
    exact ⟨x.similar_tests hd a b h.1 hab, y.similar_tests hd a b h.2 hab⟩
  | .not x, a, b, h, hab | .sign _ x, a, b, h, hab => by
    rw [Expression.touches, Expression.testsAreSteady] at h
    rw [Expression.tests]
    exact x.similar_tests hd a b h hab
  | .member x es, a, b, h, hab => by
    rw [Expression.touches, Expression.testsAreSteady, Unseen.append_iff] at h
    rw [Expression.tests, List.forall_mem_append]
    exact ⟨x.similar_tests hd a b h.1 hab, Expression.similar_testsOfAll hd es a b h.2 hab⟩
  | .hasSolution p, a, b, h, hab => by
    rw [Expression.touches, Expression.testsAreSteady] at h
    rw [Expression.tests, List.forall_mem_singleton]
    exact p.similar_plan hd a b h hab
  | .choose x y z, a, b, h, hab => by
    rw [Expression.touches, Expression.testsAreSteady, Unseen.append_iff, Unseen.append_iff] at h
    rw [Expression.tests, List.forall_mem_append, List.forall_mem_append]
    exact ⟨⟨x.similar_tests hd a b h.1.1 hab, y.similar_tests hd a b h.1.2 hab⟩, z.similar_tests hd a b h.2 hab⟩
  | .coalesce es, a, b, h, hab | .call _ es, a, b, h, hab => by
    rw [Expression.touches, Expression.testsAreSteady] at h
    rw [Expression.tests]
    exact Expression.similar_testsOfAll hd es a b h hab

/-- The plans of the tests of several expressions show no difference if nothing that they touch does. -/
theorem Expression.similar_testsOfAll (hd : ∀ s t, R s t → s.dataset = t.dataset) : (es : List Expression) →
    (a b : ActiveGraph) → Unseen R c (Expression.touchesOfAll a es) (Expression.allTestsAreSteady es) →
    Scope.Covers R c a b → ∀ p ∈ Expression.testsOfAll es, Plan.Similar R (c.withActive b) p
  | [], _, _, _, _ => by simp [Expression.testsOfAll]
  | e :: es, a, b, h, hab => by
    rw [Expression.touchesOfAll, Expression.allTestsAreSteady, Unseen.append_iff] at h
    rw [Expression.testsOfAll, List.forall_mem_append]
    exact ⟨e.similar_tests hd a b h.1 hab, Expression.similar_testsOfAll hd es a b h.2 hab⟩

end

end SparqlAlgebra

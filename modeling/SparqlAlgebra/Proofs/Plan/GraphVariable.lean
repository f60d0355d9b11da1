import SparqlAlgebra.Proofs.Algebra.GraphVariable
import SparqlAlgebra.Proofs.Plan.RowsSearched
import SparqlAlgebra.Proofs.Query.Similar

/-!
# Plans over the graphs that the rows name

The first row decides whether the graphs are gone through or looked up in each leaf. The plan delivers for every row
what the pattern has for it in each of its graphs, whichever way is taken, provided that the leaves resolve the graph
where the rows do not.
-/

namespace SparqlAlgebra

open Solution Stage Join

namespace Pattern

variable {c : Scope} {d : Dataset} {v : Variable} {p : Pattern} {k : Expression.Compiler} {active : ActiveGraph}

/-- The look-ups of some touches deliver the solutions of their patterns. -/
def Answers (P : Store → Prop) (c : Scope) (d : Dataset) (xs : List Touch) : Prop :=
  ∀ a qs r, .lookup a qs ∈ xs → c.Shows d r a → Join.Answered P c.settings d r qs

/-- Fewer look-ups are answered if more are. -/
theorem Answers.mono {P : Store → Prop} {xs ys : List Touch} (h : Answers P c d ys) (hsub : xs ⊆ ys) :
    Answers P c d xs :=
  fun a qs r hx => h a qs r (hsub hx)

/-- The look-ups of the first part are answered. -/
theorem Answers.left {P : Store → Prop} {xs ys : List Touch} (h : Answers P c d (xs ++ ys)) : Answers P c d xs :=
  h.mono (List.subset_append_left xs ys)

/-- The look-ups of the second part are answered. -/
theorem Answers.right {P : Store → Prop} {xs ys : List Touch} (h : Answers P c d (xs ++ ys)) : Answers P c d ys :=
  h.mono (List.subset_append_right xs ys)

/-- Those of a basic graph pattern are what it looks up in the graphs that the active one stands for. -/
theorem Answers.lookedUp {P : Store → Prop} {a : ActiveGraph} {ps : List TriplePattern}
    (h : Answers P c d ((Pattern.bgp ps).touches a)) :
    ∀ qs ∈ Plan.lookedUp ps, ∀ r, c.Shows d r a → Join.Answered P c.settings d r qs := by
  intro qs hqs r
  rw [touches] at h
  exact h a qs r (List.mem_map_of_mem hqs)

/-- Plans of such patterns deliver their rows without failing, in every active graph that another one covers. -/
theorem Positive.means {P : Store → Prop} (hP : ∀ s, P s → s.dataset = d) (hp : p.Positive) {a : ActiveGraph}
    (hanswers : Answers P c d (p.touches a)) (hb : c.settings.hints.batchSize < 2 ^ 64)
    (hcovers : ∀ r, c.Shows d r active → c.Shows d r a)
    (hactive : ∀ e, (c.withActive active).activeGraph? d ≠ .error e) :
    Plan.Means P False (c.withActive active) p.plan (p.rows (c.leafRows d) k active) := by
  induction hp with
  | @bgp ps hsearch =>
    rw [plan]
    exact Plan.means_bgp hP hactive (fun qs hqs r hr => hanswers.lookedUp qs hqs r (hcovers r hr)) hb hsearch
  | values =>
    rw [plan]
    exact Plan.means_values _ _
  | join _ _ iha ihb =>
    rw [plan]
    rw [touches] at hanswers
    have hleft := iha hanswers.left
    have hright := ihb hanswers.right
    rw [rows_join]
    exact Plan.means_join hleft .any hright
  | union _ _ iha ihb =>
    rw [plan]
    rw [touches] at hanswers
    have hleft := iha hanswers.left
    have hright := ihb hanswers.right
    rw [rows_union]
    exact Plan.means_union hleft hright
  | project _ ih =>
    rw [plan]
    rw [touches] at hanswers
    exact Plan.means_project _ (ih hanswers) trivial

end Pattern

namespace Plan

open Build

variable {P : Store → Prop} {mayFail : Prop} {c : Scope} {d : Dataset} {v : Variable} {p : Plan} {st : Store}
  {source : Flow Solution} {V : Multiset Solution} {B : Rows} {F : Iri → Rows} {Q : Solution → Prop}

/-- Built in some graphs, a plan delivers in each of them what is found for the rows that do not exclude it. -/
theorem within_inEachGraph {iris : List Iri}
    (hp : ∀ iri ∈ iris, MeansOn Q P mayFail (c.withActive (.named iri)) p (F iri)) {rows : List Solution}
    (hrows : ∀ iri, ∀ s ∈ Solution.join rows {Solution.empty.insert v (.iri iri)}, Q s) (hst : P st) :
    (inEachGraph c v p rows iris st).2 = st ∧
      List.Forall₂ (Within P mayFail) (inEachGraph c v p rows iris st).1
        (iris.map fun iri => F iri (Solution.join rows {Solution.empty.insert v (.iri iri)})) := by
  induction iris with
  | nil => exact ⟨rfl, .nil⟩
  | cons iri iris ih =>
    have hnamed : (↑(rows.filterMap fun s => s.merge? (Solution.empty.insert v (.iri iri))) : Multiset Solution) =
        Solution.join rows {Solution.empty.insert v (.iri iri)} := by
      rw [join_comm, singleton_join, ← Multiset.filterMap_coe]
      exact filterMap_congr fun s _ => merge?_comm _ _
    have hfirst := hp iri List.mem_cons_self _ _ (hnamed ▸ hrows iri)
      (.ofList (rows.filterMap fun s => s.merge? (Solution.empty.insert v (.iri iri)))) st hst
    rw [hnamed] at hfirst
    obtain ⟨hf, ht⟩ := within_now hfirst
    obtain ⟨hstore, hfs⟩ := ih fun i hi => hp i (List.mem_cons_of_mem iri hi)
    rw [inEachGraph]
    dsimp only
    rw [ht]
    exact ⟨hstore, .cons hf hfs⟩

/-- Going through the graphs delivers in each of them what is found for the rows that do not exclude it. -/
theorem within_fanOut (hP : ∀ s, P s → s.dataset = d)
    (hp : ∀ iri, c.canSee d iri = true → MeansOn Q P mayFail (c.withActive (.named iri)) p (F iri))
    (hV : ∀ iri, ∀ s ∈ Solution.join V {Solution.empty.insert v (.iri iri)}, Q s) (hs : Within P mayFail source V) :
    Within P mayFail (fanOut c v p source)
      ((c.namedGraphs d : Multiset Iri).bind fun iri =>
        F iri (Solution.join V {Solution.empty.insert v (.iri iri)})) := by
  refine c.engine.within_mergeMap_gather (fun rows hrows => .act fun st hst => ?_) hs
  rw [← hrows, hP st hst]
  obtain ⟨hstore, hfs⟩ := within_inEachGraph (v := v)
    (fun iri hiri => hp iri (Scope.mem_namedGraphs_iff.1 hiri)) (fun iri => hrows ▸ hV iri) hst
  dsimp only
  rw [hstore, coe_bind_eq_sum]
  exact ⟨c.engine.within_merge hfs, hst⟩

/-- Either way delivers what a function says, and so does the choice between them. -/
theorem gives_graph_var {rows : List Solution} {W : Multiset Solution}
    (hp : Means P mayFail (c.withActive (.bound v)) p B)
    (hbound : (∃ s ∈ rows.head?, s.binds v = true) → B rows = W)
    (hfan : (∀ s ∈ rows.head?, s.binds v = false) → Within P mayFail (fanOut c v p (.ofList rows)) W)
    (hst : P st) :
    Gives mayFail st (fun stage => Within P mayFail stage W) (graph (.var v) p c (.ofList rows)) := by
  refine (hp.validate hst).bind fun _ _ => .pure (c.engine.within_peek_ofList ?_)
  split
  · rename_i hfirst
    refine within_later fun st hst => ?_
    have hbinds : ∃ s ∈ rows.head?, s.binds v = true := by
      cases hhead : rows.head? with
      | none => simp [hhead] at hfirst
      | some s => exact ⟨s, rfl, by simpa [hhead] using hfirst⟩
    rw [← hbound hbinds]
    exact hp _ _ (fun _ _ => trivial) (.ofList rows) st hst
  · rename_i hfirst
    refine hfan fun s hs => ?_
    rw [Option.mem_def] at hs
    simpa [hs] using hfirst

/-- Collecting what has been built gives the rows of the bag in some order. -/
theorem collected {b : Build (Flow Solution)} {W : Multiset Solution}
    (h : Gives mayFail st (fun stage => Within P mayFail stage W) b) (hst : P st) :
    Ends P mayFail (Holds W) ((b >>= collect).run st) := by
  unfold Gives at h
  rw [Build.run_bind]
  rcases hb : b.run st with ⟨e | stage, t⟩
  · rw [hb] at h
    obtain ⟨rfl, hfail⟩ := h
    exact ⟨hst, hfail⟩
  · rw [hb] at h
    obtain ⟨rfl, hstage⟩ := h
    exact hstage.runs t hst

/-- Without failures there is a list of these rows. -/
theorem exists_collected {b : Build (Flow Solution)} {W : Multiset Solution}
    (h : Gives False st (fun stage => Within P False stage W) b) (hst : P st) :
    ∃ out : List Solution, ((b >>= collect).run st).1 = .ok out ∧ (out : Multiset Solution) = W := by
  have hends := collected h hst
  rcases hb : (b >>= collect).run st with ⟨e | out, t⟩
  · rw [hb] at hends
    exact hends.2.elim
  · rw [hb] at hends
    exact ⟨out, rfl, hends.2⟩

end Plan

namespace Pattern

variable {c : Scope} {v : Variable} {p : Pattern} {st : Store} {rows : List Solution}

/-- Whatever the store has kept, the look-ups deliver their solutions as long as the keys tell them apart, and anyhow if
nothing that is kept is used. -/
theorem exists_answers_of_used {xs : List Touch} (h : c.settings.hints.useCache = true → st.cache = none ∨
    ToldApart st.dataset (c.lookups st.dataset xs) ∧
      ∀ e ∈ st.kept, Current st.dataset (c.lookups st.dataset xs) e) :
    ∃ P : Store → Prop, P st ∧ (∀ s, P s → s.dataset = st.dataset) ∧ Answers P c st.dataset xs := by
  by_cases hoff : c.settings.hints.useCache = true → st.cache = none
  · exact ⟨CacheOff c.settings st.dataset, ⟨rfl, hoff⟩, fun s hs => hs.1,
      fun _ _ _ _ _ => answered_of_cacheOff ..⟩
  · rw [Classical.not_imp] at hoff
    obtain ⟨htold, hkept⟩ := (h hoff.1).resolve_left hoff.2
    refine ⟨Keeps st.dataset (Current st.dataset (c.lookups st.dataset xs)), ⟨rfl, hkept⟩, fun s hs => hs.1, ?_⟩
    intro a qs r hx hr
    exact answered_of_serves (l := ⟨c.settings, r, qs⟩) (.of_current htold) ⟨hoff.1, rfl, a, hx, hr⟩

/-- Where this holds of what is kept, the look-ups deliver their solutions. -/
theorem exists_answers {xs : List Touch} (h : st.cache = none ∨
    ToldApart st.dataset (c.lookups st.dataset xs) ∧
      ∀ e ∈ st.kept, Current st.dataset (c.lookups st.dataset xs) e) :
    ∃ P : Store → Prop, P st ∧ (∀ s, P s → s.dataset = st.dataset) ∧ Answers P c st.dataset xs :=
  exists_answers_of_used fun _ => h

section Positive

variable {P : Store → Prop} {d : Dataset}

/-- In a graph that can be seen, a pattern over a graph that a variable names has the rows of that graph. -/
theorem Positive.means_named (hP : ∀ s, P s → s.dataset = d) (hp : p.Positive)
    (hanswers : Answers P c d (p.touches (.bound v))) (hb : c.settings.hints.batchSize < 2 ^ 64) {iri : Iri}
    (hsee : c.canSee d iri = true) :
    Plan.Means P False (c.withActive (.named iri)) p.plan (p.rows (c.leafRows d) c.compiler (.named iri)) := by
  refine hp.means hP hanswers hb (fun r hr => ⟨iri, hsee, hr.2⟩) fun e he => ?_
  have hthere : d.hasNamed iri = true := (Bool.and_eq_true _ _ ▸ hsee).2
  simp [Scope.activeGraph?, Scope.withActive, hthere] at he

/-- Where the rows name the graph, it has the rows of the graphs that they name. -/
theorem Positive.means_bound (hP : ∀ s, P s → s.dataset = d) (hp : p.Positive)
    (hanswers : Answers P c d (p.touches (.bound v))) (hb : c.settings.hints.batchSize < 2 ^ 64) :
    Plan.Means P False (c.withActive (.bound v)) p.plan (p.rows (c.leafRows d) c.compiler (.bound v)) :=
  hp.means hP hanswers hb (fun _ hr => hr) fun e he => by simp [Scope.activeGraph?, Scope.withActive] at he

/-- What it has in each graph that can be seen for a row can be collected. -/
theorem Positive.exists_each (hP : ∀ s, P s → s.dataset = st.dataset) (hst : P st) (hp : p.Positive)
    (hanswers : Answers P c st.dataset (p.touches (.bound v))) (hb : c.settings.hints.batchSize < 2 ^ 64) :
    ∃ each : Iri → Solution → List Solution, ∀ iri s, c.canSee st.dataset iri = true →
      ((p.plan (c.withActive (.named iri)) (.ofList [s]) >>= Plan.collect).run st).1 = .ok (each iri s) ∧
        (each iri s : Multiset Solution) = p.rows (c.leafRows st.dataset) c.compiler (.named iri) {s} := by
  have heach : ∀ iri s, ∃ out : List Solution, c.canSee st.dataset iri = true →
      ((p.plan (c.withActive (.named iri)) (.ofList [s]) >>= Plan.collect).run st).1 = .ok out ∧
        (out : Multiset Solution) = p.rows (c.leafRows st.dataset) c.compiler (.named iri) {s} := by
    intro iri s
    by_cases hsee : c.canSee st.dataset iri = true
    · have hmeans := hp.means_named hP hanswers hb hsee
      obtain ⟨out, ho, hm⟩ := Plan.exists_collected (hmeans.single (s := s) trivial hst) hst
      exact ⟨out, fun _ => ⟨ho, hm⟩⟩
    · exact ⟨[], fun h => absurd h hsee⟩
  choose each heach using heach
  exact ⟨each, heach⟩

end Positive

/-- A pattern in a graph that a variable names treats every row on its own: the plan is built, ends without a failure
and delivers for every row and every graph that can be seen and that the row does not exclude what the pattern has in
this graph for the row with its name. So it is if the first row leaves the variable open, and also if it does not,
provided that every projection over a leaf shows the variable and that the pattern names graphs that can be seen
where the rows do not. -/
theorem graph_variable_row_by_row (hp : p.Positive) (hvisible : ∀ iris, c.visible = some iris → iris.Nodup)
    (hnames : (st.dataset.named.map (·.1)).Nodup) (hb : c.settings.hints.batchSize < 2 ^ 64)
    (hkept : st.cache = none ∨
      ToldApart st.dataset (c.lookups st.dataset (p.touches (.bound v))) ∧
        ∀ e ∈ st.kept, Current st.dataset (c.lookups st.dataset (p.touches (.bound v))) e)
    (hrows : (∀ s ∈ rows.head?, s.binds v = false) ∨
      p.Shows v ∧ ∀ s ∈ rows, p.Resolves c st.dataset v ∨ c.NamesGraph st.dataset v s) :
    ∃ (out : List Solution) (each : Iri → Solution → List Solution),
      (((Pattern.graph (.var v) p).plan c (.ofList rows) >>= Plan.collect).run st).1 = .ok out ∧
      (∀ iri s, c.canSee st.dataset iri = true →
        ((p.plan (c.withActive (.named iri)) (.ofList [s]) >>= Plan.collect).run st).1 = .ok (each iri s)) ∧
      (out : Multiset Solution) = (rows : Multiset Solution).bind fun s =>
        (c.rowGraphs st.dataset v s : Multiset Iri).bind fun iri => ↑(each iri (s.insert v (.iri iri))) := by
  have hn := Scope.nodup_namedGraphs hvisible hnames
  obtain ⟨P, hst, hP, hanswers⟩ := exists_answers hkept
  obtain ⟨each, heach⟩ := hp.exists_each hP hst hanswers hb
  have hgraph : Build.Gives False st (fun stage => Within P False stage
      ((Solution.join rows (c.graphRows st.dataset v)).bind (p.inRow (c.leafRows st.dataset) c.compiler v)))
      ((Pattern.graph (.var v) p).plan c (.ofList rows)) := by
    rw [plan]
    refine Plan.gives_graph_var (hp.means_bound hP hanswers hb) (fun hfirst => ?_) (fun _ => ?_) hst
    · obtain ⟨s, hs, hbinds⟩ := hfirst
      obtain ⟨hshows, hresolved⟩ := hrows.resolve_left fun h => by simp [h s hs] at hbinds
      rw [hp.rows_bind, ← bind_singleton_join, Multiset.bind_assoc]
      exact Multiset.bind_congr fun s hs => hshows.rows_bound hn hp (hresolved s hs)
    · rw [← hp.bind_join_graphRows]
      exact Plan.within_fanOut hP (fun _ hsee => hp.means_named hP hanswers hb hsee) (fun _ _ _ => trivial) (.ofList rows)
  obtain ⟨out, ho, hm⟩ := Plan.exists_collected hgraph hst
  refine ⟨out, each, ho, fun iri s hsee => (heach iri s hsee).1, ?_⟩
  rw [hm, ← bind_singleton_join, Multiset.bind_assoc]
  refine Multiset.bind_congr fun s _ => ?_
  rw [bind_inRow_eq hn]
  refine Multiset.bind_congr fun iri hiri => ?_
  exact ((heach iri _ (Scope.canSee_of_mem_rowGraphs hiri)).2).symm

/-- A projection that shows the graph, for a row that names one graph and a row that names none. -/
theorem graph_variable_row_by_row_projected :
    let knows : Iri := ⟨"http://example.com/knows"⟩
    let first : Iri := ⟨"http://example.com/g1"⟩
    let second : Iri := ⟨"http://example.com/g2"⟩
    let g : Variable := ⟨"g"⟩
    let x : Variable := ⟨"x"⟩
    let t : Triple := ⟨.iri ⟨"http://example.com/a"⟩, knows, .iri ⟨"http://example.com/b"⟩⟩
    let u : Triple := ⟨.iri ⟨"http://example.com/c"⟩, knows, .iri ⟨"http://example.com/d"⟩⟩
    let d : Dataset := ⟨.empty defaultGraphIri ⟨true, true⟩,
      [(first, (Graph.empty first ⟨true, true⟩).insert t), (second, (Graph.empty second ⟨true, true⟩).insert u)],
      fun _ => ⟨true, true⟩⟩
    let st : Store := ⟨d, none, 0⟩
    let c : Scope := ⟨⟨.streaming, ⟨2, .structural, true⟩⟩, ⟨[], .iri knows⟩, .default, some [second, first]⟩
    let p : Pattern := .project (.bgp [⟨.var x, .iri knows, .term (.blank ⟨"b"⟩)⟩]) [g, x]
    let rows : List Solution := [Solution.empty.insert g (.iri first), .empty]
    p.Positive ∧ (∀ iris, c.visible = some iris → iris.Nodup) ∧ (st.dataset.named.map (·.1)).Nodup ∧
      c.settings.hints.batchSize < 2 ^ 64 ∧
      (st.cache = none ∨ ToldApart st.dataset (c.lookups st.dataset (p.touches (.bound g))) ∧
        ∀ e ∈ st.kept, Current st.dataset (c.lookups st.dataset (p.touches (.bound g))) e) ∧
      ((∀ s ∈ rows.head?, s.binds g = false) ∨
        p.Shows g ∧ ∀ s ∈ rows, p.Resolves c st.dataset g ∨ c.NamesGraph st.dataset g s) ∧
      ∃ (out : List Solution) (each : Iri → Solution → List Solution),
        (((Pattern.graph (.var g) p).plan c (.ofList rows) >>= Plan.collect).run st).1 = .ok out ∧
        (∀ iri s, c.canSee st.dataset iri = true →
          ((p.plan (c.withActive (.named iri)) (.ofList [s]) >>= Plan.collect).run st).1 = .ok (each iri s)) ∧
        (out : Multiset Solution) = (rows : Multiset Solution).bind fun s =>
          (c.rowGraphs st.dataset g s : Multiset Iri).bind fun iri => ↑(each iri (s.insert g (.iri iri))) := by
  intro knows first second g x t u d st c p rows
  have hp : p.Positive := .project (.bgp (by decide))
  have hvisible : ∀ iris, c.visible = some iris → iris.Nodup := by
    rintro _ ⟨⟩
    decide
  have hnames : (st.dataset.named.map (·.1)).Nodup := by decide
  have hb : c.settings.hints.batchSize < 2 ^ 64 := by decide
  have hkept : st.cache = none ∨ ToldApart st.dataset (c.lookups st.dataset (p.touches (.bound g))) ∧
      ∀ e ∈ st.kept, Current st.dataset (c.lookups st.dataset (p.touches (.bound g))) e := .inl rfl
  have hrows : (∀ s ∈ rows.head?, s.binds g = false) ∨
      p.Shows g ∧ ∀ s ∈ rows, p.Resolves c st.dataset g ∨ c.NamesGraph st.dataset g s :=
    .inr ⟨.project (by decide) (.bgp (by decide)), fun _ _ => .inl (.project (by decide) .bgp)⟩
  exact ⟨hp, hvisible, hnames, hb, hkept, hrows, graph_variable_row_by_row hp hvisible hnames hb hkept hrows⟩

end Pattern

end SparqlAlgebra

import SparqlAlgebra.Proofs.Join.Batch
import SparqlAlgebra.Proofs.Plan.InScope
import SparqlAlgebra.Proofs.Query.Construct
import SparqlAlgebra.Proofs.Query.Similar
import SparqlAlgebra.Proofs.Storage.Dataset
import SparqlAlgebra.Proofs.Text.Codes

/-!
# Described resources

The triples of a described answer are the triples of the active graph whose subject a solution binds, each once. While
the solutions of the pattern are computed, the outgoing triples of the resources in them are looked up already; but a
plan only ever creates empty graphs, so the graphs hold the same triples all along.
-/

namespace SparqlAlgebra

open Solution Stage

namespace Dataset

/-- The triples that are looked up without a named graph: those of the default graph, or of the graphs that are chosen
in its place. -/
def Active (d : Dataset) (choice : Option QueryDataset) (t : Triple) : Prop :=
  match choice with
  | none => t ∈ d.default.triples
  | some q => ∃ iri ∈ q.default, ∃ g, d.named? iri = some g ∧ t ∈ g.triples

/-- A graph that is created has no triples. -/
theorem triples_of_create {d e : Dataset} {iri : Iri} (h : d.create iri = .ok e) (name : GraphName) :
    (e.graph name).triples = (d.graph name).triples := by
  have he : d.ensure (.named iri) = e := by rw [ensure, h]
  rw [← he, graph.eq_def, graph?_ensure]
  split
  · rename_i hname
    rw [← hname]
    exact d.triples_graphOrNew (.named iri)
  · rename_i hname
    unfold graph
    cases hg : d.graph? name <;> simp

end Dataset

/-- Solutions are not kept, and every graph has the triples that it had at first. -/
structure Store.Unchanged (k : Settings) (d : Dataset) (st : Store) : Prop where
  /-- Nothing is kept where solutions could be. -/
  unkept : k.hints.useCache = true → st.cache = none
  /-- Every graph has the triples that it had at first. -/
  triples : ∀ name, (st.dataset.graph name).triples = (d.graph name).triples

/-- A plan without anything kept may create no graph and leaves the dataset as it is. -/
theorem Store.Unchanged.allowsPlans (k : Settings) (d : Dataset) : AllowsPlans (Store.Unchanged k d) where
  create _ _ _ he h := ⟨h.unkept, fun name => (Dataset.triples_of_create he name).trans (h.triples name)⟩
  reseed _ _ h := ⟨h.unkept, h.triples⟩

/-- In the scope of a query the active graph can always be resolved, to one with the triples that are to be looked
up. -/
theorem Scope.exists_activeGraph {c : Scope} (hactive : c.active = .default) (choice : Option QueryDataset)
    {d : Dataset} {st : Store} (hst : st.Unchanged c.settings d) :
    ∃ r, (c.withDataset choice).activeGraph? st.dataset = .ok (some r) ∧
      ∀ t, (∃ name ∈ r.leaves, t ∈ (d.graph name).triples) ↔ d.Active choice t := by
  cases choice with
  | none =>
    refine ⟨.single .default, by rw [withDataset, activeGraph?, hactive], fun t => ?_⟩
    simp [GraphRef.leaves, Dataset.Active, Dataset.graph, Dataset.graph?]
  | some q =>
    refine ⟨_, rfl, fun t => ?_⟩
    simp only [GraphRef.leaves_union_named, List.mem_map, List.mem_filter, Dataset.Active]
    constructor
    · rintro ⟨-, ⟨iri, ⟨hiri, -⟩, rfl⟩, ht⟩
      obtain ⟨g, hg, ht⟩ := Dataset.mem_graph_iff.1 ht
      exact ⟨iri, hiri, g, hg, ht⟩
    · rintro ⟨iri, hiri, g, hg, ht⟩
      have hmem : t ∈ (d.graph (.named iri)).triples := Dataset.mem_graph_iff.2 ⟨g, hg, ht⟩
      obtain ⟨g', hg', -⟩ := Dataset.mem_graph_iff.1 ((hst.triples _).symm ▸ hmem)
      have hthere : st.dataset.hasNamed iri = true := by
        rw [Dataset.hasNamed, show st.dataset.named? iri = some g' from hg']
        rfl
      exact ⟨_, ⟨iri, ⟨hiri, hthere⟩, rfl⟩, hmem⟩

namespace Describe

/-- The solution that binds a resource to the variable for the subject. -/
def about (x : Resource) : Solution := Solution.empty.insert subject x.toTerm

/-- The resources of a row are the IRIs and blank nodes among its terms. -/
theorem mem_resources {s m : Solution} :
    m ∈ resources s ↔ ∃ x : Resource, (∃ v, s.get? v = some x.toTerm) ∧ m = about x := by
  have hterms : ∀ t, t ∈ s.terms ↔ ∃ v, s.get? v = some t := by
    intro t
    simp [terms, get?_eq_some_iff]
  simp only [resources, List.mem_map, List.mem_filter, hterms, Bool.or_eq_true]
  constructor
  · rintro ⟨t, ⟨hv, hkind⟩, rfl⟩
    cases t with
    | iri i => exact ⟨.iri i, hv, rfl⟩
    | blank b => exact ⟨.blank b, hv, rfl⟩
    | literal l => exact absurd hkind (by simp [Term.isIri, Term.isBlank])
  · rintro ⟨x, hv, rfl⟩
    exact ⟨x.toTerm, ⟨hv, by cases x <;> simp [Resource.toTerm, Term.isIri, Term.isBlank]⟩, rfl⟩

/-- The solution that binds the three places of a triple. -/
def row (t : Triple) : Solution :=
  ((about t.subject).insert predicate (.iri t.predicate)).insert object t.object

/-- A triple matches the outgoing pattern in the one way. -/
theorem match?_outgoing (t : Triple) : outgoing.match? t = some (row t) := by
  have hdistinct : predicate ≠ subject ∧ object ≠ subject ∧ object ≠ predicate := by decide
  simp [outgoing, TriplePattern.match?, Slot.match?, IriSlot.match?, row, about, hdistinct.1, hdistinct.2.1,
    hdistinct.2.2]

/-- A row of what goes out from a resource makes the triple that it was found for. -/
theorem instantiate?_outgoing (r : Renaming) (t : Triple) : outgoing.instantiate? r (row t) = some t := by
  have hdistinct : subject ≠ predicate ∧ subject ≠ object ∧ predicate ≠ object := by decide
  have hresource : t.subject.toTerm.toResource? = some t.subject := Term.toResource?_eq_some_iff.2 rfl
  simp [outgoing, TriplePattern.instantiate?, Slot.instantiate?, IriSlot.instantiate?, row, about, hdistinct.1,
    hdistinct.2.1, hdistinct.2.2, hresource]

/-- Different triples have different rows. -/
theorem row_injective : Function.Injective row := fun t u h =>
  Option.some.inj ((instantiate?_outgoing id t).symm.trans (h ▸ instantiate?_outgoing id u))

/-- The solutions of the outgoing pattern are the triples. -/
theorem solutions_outgoing (ts : List Triple) : solutions ts [outgoing] = (ts.map row : Multiset Solution) := by
  have hmatch : outgoing.match? = some ∘ row := funext match?_outgoing
  rw [solutions_cons, solutions_nil, join_empty, TriplePattern.matchesIn, hmatch, List.filterMap_eq_map]

/-- A resource is joined with its own triples only. -/
theorem about_merge?_row {x : Resource} {t : Triple} {z : Solution} :
    (about x).merge? (row t) = some z ↔ x = t.subject ∧ z = row t := by
  have hsubject : (row t).get? subject = some t.subject.toTerm := by
    have hdistinct : subject ≠ predicate ∧ subject ≠ object := by decide
    simp [row, about, hdistinct.1, hdistinct.2]
  have hcovered : x = t.subject → Extends (row t) (about x) := by
    rintro rfl v u hv
    rw [about, get?_insert, get?_empty] at hv
    split at hv
    · rename_i hvs
      rw [hvs, hsubject, hv]
    · cases hv
  constructor
  · intro h
    obtain ⟨hx, ht⟩ := extends_of_merge? h
    have hterm : x.toTerm = t.subject.toTerm :=
      Option.some.inj ((hx subject x.toTerm (by simp [about])).symm.trans (ht subject _ hsubject))
    obtain rfl : x = t.subject :=
      Option.some.inj ((Term.toResource?_eq_some_iff.2 rfl).symm.trans (Term.toResource?_eq_some_iff.2 hterm))
    exact ⟨rfl, ht.eq fun v hv => ((binds_of_merge? h).1 hv).elim (hcovered rfl).binds id⟩
  · rintro ⟨hx, rfl⟩
    obtain ⟨z, hz, hrow⟩ := exists_merge? (hcovered hx) (.refl (row t))
    rw [hz, hrow.eq fun v => (extends_of_merge? hz).2.binds]

/-- Joined with its triples, the resources give those that go out from one of them. -/
theorem mem_join_solutions {D : Multiset Solution} {ts : List Triple} {z : Solution}
    (habout : ∀ m ∈ D, ∃ x, m = about x) :
    z ∈ join D (solutions ts [outgoing]) ↔ ∃ t ∈ ts, about t.subject ∈ D ∧ z = row t := by
  rw [mem_join, solutions_outgoing]
  constructor
  · rintro ⟨m, hm, b, hb, hz⟩
    obtain ⟨x, rfl⟩ := habout m hm
    obtain ⟨t, ht, rfl⟩ := List.mem_map.1 (Multiset.mem_coe.1 hb)
    obtain ⟨rfl, rfl⟩ := about_merge?_row.1 hz
    exact ⟨t, ht, hm, rfl⟩
  · rintro ⟨t, ht, hm, rfl⟩
    exact ⟨_, hm, row t, Multiset.mem_coe.2 (List.mem_map_of_mem ht), about_merge?_row.2 ⟨rfl, rfl⟩⟩

/-- Joined with its triples, distinct resources give each triple once. -/
theorem nodup_join_solutions {D : Multiset Solution} {ts : List Triple} (hD : D.Nodup)
    (habout : ∀ m ∈ D, ∃ x, m = about x) (hts : ts.Nodup) : (join D (solutions ts [outgoing])).Nodup := by
  refine nodup_join hD (nodup_solutions hts) ?_ fun a ha b hb v hv => ?_
  · intro a ha b hb v hv
    obtain ⟨x, rfl⟩ := habout a ha
    obtain ⟨y, rfl⟩ := habout b hb
    by_cases hvs : v = subject
    · simp [about, binds, hvs]
    · simp [about, binds, hvs] at hv
  · exact (binds_of_mem_solutions hb).2 ((binds_of_mem_solutions ha).1 hv)

/-- Each row of a resource with one of its triples becomes that triple again. -/
theorem triples_rows (us : List Triple) (seed : Nat) (hus : us.Nodup) :
    (Template.triples [outgoing] seed (us.map row)).Nodup ∧
      ∀ t, t ∈ Template.triples [outgoing] seed (us.map row) ↔ t ∈ us := by
  have hmade : ∀ nodes, Template.made [outgoing] nodes seed (us.map row) = us := by
    intro nodes
    induction us generalizing seed with
    | nil => rfl
    | cons t us ih =>
      rw [Template.made, List.map_cons, List.zipIdx_cons, List.flatMap_cons]
      have hrest := ih (seed + 1) (List.nodup_cons.1 hus).2
      rw [Template.made] at hrest
      rw [hrest]
      simp [instantiate?_outgoing]
  refine ⟨Template.nodup_triples_iff.2 ?_, fun t => ?_⟩
  · rw [hmade]
    exact hus.filter _
  · rw [Template.mem_triples, hmade]

/-- Resources that are joined with the triples of a graph make those of its triples that are about them. -/
theorem triples_of_join {D : Multiset Solution} {ts : List Triple} {zs : List Solution} (seed : Nat)
    (hD : D.Nodup) (habout : ∀ m ∈ D, ∃ x, m = about x) (hts : ts.Nodup)
    (hzs : Holds (join D (solutions ts [outgoing])) zs) :
    (Template.triples [outgoing] seed zs).Nodup ∧
      ∀ t, t ∈ Template.triples [outgoing] seed zs ↔ t ∈ ts ∧ about t.subject ∈ D := by
  have hmem : ∀ z, z ∈ zs ↔ ∃ t ∈ ts, about t.subject ∈ D ∧ z = row t := fun z => by
    rw [← mem_join_solutions habout, ← hzs, Multiset.mem_coe]
  have hrows : ∀ z ∈ zs, z ∈ Set.range row := fun z hz => by
    obtain ⟨t, -, -, rfl⟩ := (hmem z).1 hz
    exact ⟨t, rfl⟩
  obtain ⟨us, rfl⟩ : zs ∈ Set.range (List.map row) := Set.range_list_map row ▸ hrows
  have hnodup : (us.map row).Nodup := by
    rw [← Multiset.coe_nodup, hzs]
    exact nodup_join_solutions hD habout hts
  obtain ⟨honce, hthere⟩ := triples_rows us seed (hnodup.of_map row)
  refine ⟨honce, fun t => ?_⟩
  rw [hthere, ← List.mem_map_of_injective row_injective, hmem]
  constructor
  · rintro ⟨u, hu, hd, htu⟩
    obtain rfl := row_injective htu
    exact ⟨hu, hd⟩
  · rintro ⟨ht, hd⟩
    exact ⟨t, ht, hd, rfl⟩

/-- The bag of the resources of some solutions, each once. -/
def resourcesOf (V : Multiset Solution) : Multiset Solution := (V.bind fun s => (resources s : Multiset Solution)).dedup

/-- The resources of a bag are those of its rows. -/
theorem mem_resourcesOf {V : Multiset Solution} {m : Solution} :
    m ∈ resourcesOf V ↔ ∃ x : Resource, (∃ s ∈ V, ∃ v, s.get? v = some x.toTerm) ∧ m = about x := by
  simp only [resourcesOf, Multiset.mem_dedup, Multiset.mem_bind, Multiset.mem_coe, mem_resources]
  constructor
  · rintro ⟨s, hs, x, hv, hm⟩
    exact ⟨x, ⟨s, hs, hv⟩, hm⟩
  · rintro ⟨x, ⟨s, hs, hv⟩, hm⟩
    exact ⟨s, hs, x, hv, hm⟩

/-- A resource is among them if some row binds it. -/
theorem about_mem_resourcesOf {V : Multiset Solution} {x : Resource} :
    about x ∈ resourcesOf V ↔ ∃ s ∈ V, ∃ v, s.get? v = some x.toTerm := by
  rw [mem_resourcesOf]
  constructor
  · rintro ⟨y, hy, hxy⟩
    have hterm : x.toTerm = y.toTerm := by simpa [about] using congrArg (·.get? subject) hxy
    rwa [hterm]
  · exact fun h => ⟨x, h, rfl⟩

/-- Over a run of the stage of the solutions, the resources in them are joined with the triples of the active graph. -/
theorem run_stage {k : Settings} {d : Dataset} {c : Scope} {r : GraphRef} {solutionsStage : Flow Solution}
    {s t st : Store} {V : Multiset Solution} (hk : c.settings = k) (hbatch : k.hints.batchSize < 2 ^ 64)
    (hr : c.activeGraph? st.dataset = .ok (some r)) (h : Passes (Store.Unchanged k d) solutionsStage s V t) :
    ∃ f, (stage c solutionsStage).run st = (.ok f, st) ∧
      Passes (Store.Unchanged k d) f s (join (resourcesOf V) (solutions (r.tripleSet d) [outgoing])) t := by
  subst hk
  have hplan : SearchPlan.ofPatterns ([outgoing].map HiddenVariable.replace) = .ok ⟨[outgoing], []⟩ := by decide
  have hfound : Passes (Store.Unchanged c.settings d)
      (c.engine.distinct Solution.key (c.engine.mergeMap (fun s => .ofList (resources s)) solutionsStage)) s
      (resourcesOf V) t :=
    c.engine.passes_distinct Solution.key_injective (c.engine.passes_mergeMap (fun x _ u _ => .ofList (resources x)) h)
  refine ⟨Join.bound c.settings r [outgoing] _, ?_,
    Join.passes_bound (fun u hu => hu.unkept) (fun u hu => ?_) hbatch hfound⟩
  · rw [stage, Plan.bgp, hplan]
    exact Build.run_bind_ok (Scope.run_onActiveGraph hr)
  · refine solutions_congr (r.nodup_tripleSet _) (r.nodup_tripleSet _) fun x => ?_
    rw [GraphRef.mem_tripleSet, GraphRef.mem_tripleSet]
    simp only [hu.triples]

end Describe

namespace Query

/-- The solutions of a query that succeeds are what passes through the stage of its pattern, from the store that is there
once the stage is built. None of them binds a variable that is not shown. -/
theorem exists_passes_of_select {c : Scope} {p : Pattern} {choice : Option QueryDataset} {vs : List Variable}
    {rows : List Solution} {st u : Store} (hactive : c.active = .default)
    (hoff : c.settings.hints.useCache = true → st.cache = none)
    (h : (evaluate c ⟨.select, p, choice⟩).run st = (.ok (.solutions vs rows), u)) :
    ∃ stage t, (p.plan.fromEmpty (c.withDataset choice)).run st = (.ok stage, t) ∧
      Store.Unchanged c.settings st.dataset t ∧ Passes (Store.Unchanged c.settings st.dataset) stage t rows u := by
  let P := Store.Unchanged c.settings st.dataset
  have hst : P st := ⟨hoff, fun _ => rfl⟩
  rw [evaluate] at h
  obtain ⟨stage, t, hstage, h⟩ := Build.run_bind_eq_ok_iff.1 h
  obtain ⟨found, w, hfound, h⟩ := Build.run_bind_eq_ok_iff.1 h
  cases h
  have hlooks : LooksUpInScope P (c.withDataset choice).settings p.bgps := fun _ _ _ _ =>
    Join.staysInScope_of_cacheOff fun _ hu => c.settings_withDataset choice ▸ hu.unkept
  have hempty : Stage.Only P (BindsIn (p.scopeIn (c.withDataset choice))) (Stage.ofList [.empty] : Flow Solution) :=
    .ofList (List.forall_mem_singleton.2 bindsIn_empty)
  have hbuilt :=
    p.staysIn_plan (Store.Unchanged.allowsPlans _ _) (c.withDataset choice) hlooks _ subset_rfl _ hempty st hst
  rw [show (p.plan (c.withDataset choice) (.ofList [.empty])).run st = (.ok stage, t) from hstage] at hbuilt
  obtain ⟨ht, honly⟩ := hbuilt
  have hscope : p.scopeIn (c.withDataset choice) ⊆ {v | v ∈ p.inScope} := by
    have hnone : (c.withDataset choice).enclosing = ∅ := by
      ext v
      cases choice <;> simp [Scope.enclosing, Scope.withDataset, hactive]
    rw [Pattern.scopeIn, hnone, Set.union_empty]
    exact fun v hv => List.mem_eraseDups.2 hv
  have hshown : found.map (·.project p.inScope) = found := by
    have hbinds := honly.runs t ht
    rw [show stage.collect t = (.ok found, u) from hfound] at hbinds
    exact (List.map_congr_left fun s hs => ((hbinds.2 s hs).mono hscope).project_eq).trans found.map_id
  rw [hshown]
  exact ⟨stage, t, hstage, ht, .of_collect honly ht hfound⟩

/-- Where a query for the solutions succeeds, one that describes them does so as well. Its triples are exactly those of
the active graph whose subject is an IRI or blank node that some solution binds, each of them once. -/
theorem describe_exact {c : Scope} {p : Pattern} {choice : Option QueryDataset} {vs : List Variable}
    {rows : List Solution} {st u : Store} (hactive : c.active = .default) (hbatch : c.settings.hints.batchSize < 2 ^ 64)
    (hoff : c.settings.hints.useCache = true → st.cache = none)
    (h : (evaluate c ⟨.select, p, choice⟩).run st = (.ok (.solutions vs rows), u)) :
    ∃ ts, ((evaluate c ⟨.describe, p, choice⟩).run st).1 = .ok (.graph ts) ∧ ts.Nodup ∧
      ∀ t, t ∈ ts ↔ st.dataset.Active choice t ∧ ∃ s ∈ rows, ∃ v, s.get? v = some t.subject.toTerm := by
  obtain ⟨stage, t, hstage, ht, hpasses⟩ := exists_passes_of_select hactive hoff h
  obtain ⟨r, hr, hactiveTriples⟩ := Scope.exists_activeGraph hactive choice ht
  obtain ⟨f, hf, hjoined⟩ := Describe.run_stage (c.settings_withDataset choice) hbatch hr hpasses
  obtain ⟨zs, hcollect, hzs, -⟩ := hjoined.collect
  obtain ⟨hnodup, hmem⟩ := Describe.triples_of_join (D := Describe.resourcesOf rows) u.seed
    (Multiset.nodup_dedup _) (fun m hm => (Describe.mem_resourcesOf.1 hm).imp fun _ hx => hx.2)
    (r.nodup_tripleSet st.dataset) hzs
  refine ⟨_, ?_, hnodup, fun triple => ?_⟩
  · have hstage' : (Query.stage c ⟨.describe, p, choice⟩).run st = (.ok stage, t) := hstage
    rw [evaluate, Build.run_bind_ok hstage']
    simp only
    rw [scope, Build.run_bind_ok hf, Build.run_bind_ok (show (Plan.collect f).run t = (.ok zs, u) from hcollect)]
    rfl
  · rw [hmem, Describe.about_mem_resourcesOf, GraphRef.mem_tripleSet, hactiveTriples]
    rfl

/-- A node that two of the chosen graphs name, once with the same name in both: what it is named is described, each
name once, and its age in a graph that is not chosen is left out. -/
theorem describe_exact_two_graphs :
    let name : Iri := ⟨"http://example.com/name"⟩
    let age : Iri := ⟨"http://example.com/age"⟩
    let one : Iri := ⟨"http://example.com/one"⟩
    let two : Iri := ⟨"http://example.com/two"⟩
    let three : Iri := ⟨"http://example.com/three"⟩
    let x : Variable := ⟨"x"⟩
    let n : Variable := ⟨"n"⟩
    let ann : Term := .literal (.string "Ann")
    let anna : Term := .literal (.string "Anna")
    let empty (iri : Iri) : Graph := .empty iri ⟨true, true⟩
    let first := (empty one).insert ⟨.blank ⟨"b"⟩, name, ann⟩
    let second := ((empty two).insert ⟨.blank ⟨"b"⟩, name, ann⟩).insert ⟨.blank ⟨"b"⟩, name, anna⟩
    let third := (empty three).insert ⟨.blank ⟨"b"⟩, age, .literal (.ofInt 7)⟩
    let graphs := [(one, first), (two, second), (three, third)]
    let st : Store := ⟨⟨empty defaultGraphIri, graphs, fun _ => ⟨true, true⟩⟩, none, 0⟩
    let c : Scope := ⟨⟨.streaming, ⟨2, .structural, true⟩⟩, ⟨[], .iri name⟩, .default, none⟩
    let p : Pattern := .bgp [⟨.var x, .iri name, .var n⟩]
    let choice : Option QueryDataset := some ⟨[one, two], none⟩
    let rows : List Solution := [(Solution.empty.insert x (.blank ⟨"b"⟩)).insert n ann,
      (Solution.empty.insert x (.blank ⟨"b"⟩)).insert n anna]
    let u := ((evaluate c ⟨.select, p, choice⟩).run st).2
    (c.active = .default ∧ c.settings.hints.batchSize < 2 ^ 64 ∧
      (c.settings.hints.useCache = true → st.cache = none) ∧
      (evaluate c ⟨.select, p, choice⟩).run st = (.ok (.solutions [x, n] rows), u)) ∧
      ∃ ts, ((evaluate c ⟨.describe, p, choice⟩).run st).1 = .ok (.graph ts) ∧ ts.Nodup ∧
        ∀ t, t ∈ ts ↔ st.dataset.Active choice t ∧ ∃ s ∈ rows, ∃ v, s.get? v = some t.subject.toTerm := by
  intro name age one two three x n ann anna empty first second third graphs st c p choice rows u
  have h : (evaluate c ⟨.select, p, choice⟩).run st = (.ok (.solutions [x, n] rows), u) :=
    Prod.ext (by decide +kernel) rfl
  exact ⟨⟨rfl, by decide, fun _ => rfl, h⟩, describe_exact rfl (by decide) (fun _ => rfl) h⟩

end Query

end SparqlAlgebra

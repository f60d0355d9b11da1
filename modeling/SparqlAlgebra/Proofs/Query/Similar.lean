import SparqlAlgebra.Proofs.Join.Kept
import SparqlAlgebra.Proofs.Plan.Touches
import SparqlAlgebra.Proofs.Storage.Dataset
import SparqlAlgebra.Query.Evaluate

/-!
# Answers that do not depend on what has been kept

The look-ups of a request are those that its plan touches, in the references that its active graphs stand for.
As long as these can be served from what two stores have kept, a query that creates no graphs has the same answer
in both, with the same solutions in the same order.
-/

namespace SparqlAlgebra

open Stage

variable {R : Store → Store → Prop} {c : Scope} {d : Dataset} {S : Set Lookup}
  {good : CacheKey × List Solution → Prop}

/-- Stores of one dataset whose entries all have a property are indistinct. -/
theorem Alike.indistinct : Indistinct (Alike d good) where
  dataset _ _ h := h.left.trans h.right.symm
  seed _ _ h := h.seed
  reseed _ _ _ h := ⟨h.left, h.right, rfl, h.keptLeft, h.keptRight⟩

/-- A choice of graphs does not change the settings. -/
theorem Scope.settings_withDataset (c : Scope) (choice : Option QueryDataset) :
    (c.withDataset choice).settings = c.settings := by
  cases choice <;> rfl

/-- A property of stores that neither drawing values nor keeping solutions ends. -/
structure Lasting (P : Store → Prop) : Prop where
  /-- Drawing values does not end the property. -/
  reseed : ∀ s n, P s → P { s with seed := n }
  /-- Keeping solutions does not end the property. -/
  keep : ∀ (s : Store) graph ps ss, P s → P { s with cache := s.cache.map fun k => k.insert graph ps ss }

/-- Both stores are the same, and they have a property. -/
structure Same (P : Store → Prop) (s t : Store) : Prop where
  /-- Both stores are the same. -/
  eq : s = t
  /-- The store has the property. -/
  holds : P s

namespace Lasting

variable {P : Store → Prop}

/-- Stores that share what lasts are indistinct. -/
theorem indistinct (hP : Lasting P) : Indistinct (Same P) where
  dataset _ _ h := by rw [h.eq]
  seed _ _ h := by rw [h.eq]
  reseed s _ n h := ⟨by rw [h.eq], hP.reseed s n h.holds⟩

/-- A look-up does not end the property. -/
theorem similar_cachedBgp (hP : Lasting P) (k : Settings) (r : GraphRef) (ps : List TriplePattern) :
    Stage.Similar (Same P) (Join.cachedBgp k r ps) (Join.cachedBgp k r ps) := by
  have hbgp : Stage.Similar (Same P) (Join.bgp k r ps) (Join.bgp k r ps) :=
    Join.similar_bgp (fun s t h => .of_eq r (congrArg Store.dataset h.eq)) _ _
  have hkeep : ∀ graph, Stage.Similar (Same P) (Join.keepBgp k r graph ps) (Join.keepBgp k r graph ps) := by
    intro graph
    refine k.engine.similar_mergeMap (fun _ => .ofList _) (k.engine.similar_mapWithState ?_ (k.engine.similar_gather hbgp))
    intro ss s t h
    obtain rfl := h.eq
    exact ⟨rfl, rfl, hP.keep s graph ps ss h.holds⟩
  rw [Join.cachedBgp_eq]
  refine .read fun s t h => ?_
  obtain rfl := h.eq
  rw [Join.cachedIn]
  split
  · exact hbgp s s h
  · split
    · exact Similar.ofList _ s s h
    · exact hkeep _ s s h

end Lasting

/-- The look-ups for which solutions are kept, if they are kept at all. -/
def Scope.lookups (c : Scope) (d : Dataset) (xs : List Touch) : Set Lookup :=
  { l | c.settings.hints.useCache = true ∧ l.settings = c.settings ∧
    ∃ a, .lookup a l.patterns ∈ xs ∧ c.Shows d l.graph a }

/-- Without keeping, a look-up is an evaluation. -/
theorem Join.similar_cachedBgp_of_unused (hI : Indistinct R) {k : Settings} {r : GraphRef} {ps : List TriplePattern}
    (h : ∀ s t, R s t → (if k.hints.useCache then s.cache else none) = none ∧
      (if k.hints.useCache then t.cache else none) = none) :
    Stage.Similar R (cachedBgp k r ps) (cachedBgp k r ps) := by
  rw [cachedBgp_eq]
  refine .read fun s t hR => ?_
  obtain ⟨hs, ht⟩ := h s t hR
  rw [cachedIn, cachedIn, hs, ht]
  exact similar_bgp (fun s t hR => .of_eq r (hI.dataset s t hR)) k ps s t hR

/-- Touching this creates no graph that is not there. -/
def Touch.CreatesNone (d : Dataset) : Touch → Prop
  | .lookup .. => True
  | .create iri => d.hasNamed iri = true
  | .anywhere => False

/-- A graph that is there is not created. -/
theorem Plan.creates_of_hasNamed {iri : Iri} (h : ∀ s t, R s t → s.dataset.hasNamed iri = true) :
    Plan.Creates R iri := by
  intro s t d hR hcreate
  rw [Dataset.create_of_hasNamed (h s t hR)] at hcreate
  cases hcreate

/-- Where no graph is created, only the look-ups may show a difference. -/
theorem Touch.hides_of_createsNone (hd : ∀ s t, R s t → s.dataset = d) {xs : List Touch}
    (hxs : ∀ x ∈ xs, x.CreatesNone d) (hlookup : ∀ a ps, .lookup a ps ∈ xs → Touch.Hides R c (.lookup a ps)) :
    ∀ x ∈ xs, x.Hides R c := by
  intro x hx
  have hnone := hxs x hx
  cases x with
  | lookup a ps => exact hlookup a ps hx
  | create iri => exact Plan.creates_of_hasNamed fun s t hR => (hd s t hR).symm ▸ hnone
  | anywhere => exact hnone.elim

/-- Look-ups that can be served hide what has been kept. -/
theorem Touch.hides_of_serves (hserves : Serves d S good) {xs : List Touch} (hS : c.lookups d xs ⊆ S)
    (hxs : ∀ x ∈ xs, x.CreatesNone d) : ∀ x ∈ xs, x.Hides (Alike d good) c := by
  refine hides_of_createsNone (fun s t hR => hR.left) hxs fun a ps hx s t r hR hr => ?_
  by_cases hc : c.settings.hints.useCache = true
  · have hl : (⟨c.settings, r, ps⟩ : Lookup) ∈ S := hS ⟨hc, rfl, a, hx, hR.left ▸ hr⟩
    exact Join.similar_cachedBgp_of_serves hserves hl
  · exact Join.similar_cachedBgp_of_unused Alike.indistinct fun s t _ => by simp [hc]

namespace Plan

/-- Collecting stages with the same items gives the same. -/
theorem similar_collect {α : Type} {f g : Flow α} (h : Stage.Similar R f g) :
    Build.Similar R Eq (collect f) (collect g) := by
  intro s t hR
  obtain ⟨hv, hs⟩ := h.collect hR
  change SameResult R Eq (f.collect s) (g.collect t)
  rcases hf : f.collect s with ⟨v, s'⟩
  rcases hg : g.collect t with ⟨w, t'⟩
  rw [hf, hg] at hv hs
  obtain rfl : v = w := hv
  cases v with
  | error e => exact .error hs
  | ok xs => exact .ok rfl hs

/-- Instances of a template have the same fresh blank nodes in both stores. -/
theorem similar_instances (hI : Indistinct R) (template : List TriplePattern) (rows : List Solution) :
    Build.Similar R Eq (instances template rows) (instances template rows) := by
  refine Build.Similar.get.bind fun s t hR => ?_
  rw [hI.seed s t hR]
  refine (Build.Similar.set ?_).bind fun _ _ _ => .pure rfl
  exact hI.reseed s t _ hR

end Plan

namespace Query

/-- What a query touches. -/
def touches (c : Scope) (q : Query) : List Touch :=
  q.pattern.touches (q.scope c).active ++
    match q.form with
    | .describe => (Plan.lookedUp [Describe.outgoing]).map (.lookup (q.scope c).active)
    | _ => []

/-- The look-ups of a query. -/
def lookups (c : Scope) (d : Dataset) (q : Query) : Set Lookup := (q.scope c).lookups d (q.touches c)

section Bgp

variable {choice : Option QueryDataset} {ps qs : List TriplePattern}

/-- A query for a single basic graph pattern touches nothing but its look-up. -/
theorem touches_bgp (hps : Plan.lookedUp ps = [qs]) :
    touches c ⟨.select, .bgp ps, choice⟩ = [.lookup (c.withDataset choice).active qs] := by
  rw [touches, Pattern.touches, hps]
  rfl

/-- The look-ups of a basic graph pattern alone are those in the graphs that the active one stands for. -/
theorem eq_of_mem_lookups_bgp (hps : Plan.lookedUp ps = [qs]) {l : Lookup}
    (h : l ∈ lookups c d ⟨.select, .bgp ps, choice⟩) :
    l.settings = c.settings ∧ l.patterns = qs ∧
      (c.withDataset choice).Shows d l.graph (c.withDataset choice).active := by
  rw [lookups, touches_bgp hps] at h
  obtain ⟨-, hsettings, a, ha, hg⟩ := h
  obtain ⟨rfl, hqs⟩ := Touch.lookup.inj (List.mem_singleton.1 ha)
  exact ⟨hsettings.trans (c.settings_withDataset choice), hqs, hg⟩

end Bgp

/-- A query has the same answer in related stores if nothing that it touches shows a difference. -/
theorem similar_evaluate (hI : Indistinct R) {q : Query} (h : ∀ x ∈ q.touches c, x.Hides R (q.scope c)) :
    Build.Similar R Eq (q.evaluate c) (q.evaluate c) := by
  obtain ⟨hpattern, hform⟩ := List.forall_mem_append.1 h
  have hplan : Plan.Similar R (q.scope c) q.pattern.plan :=
    q.pattern.similar_plan hI.dataset _ _ ⟨hpattern, .inr hI.redraws⟩ (.refl _)
  unfold evaluate
  refine (hplan _ _ (.ofList [.empty])).bind fun f g hfg => ?_
  cases hq : q.form with
  | select =>
    refine (Plan.similar_collect hfg).bind fun rows _ hrows => ?_
    obtain rfl := hrows
    exact .pure rfl
  | ask =>
    refine (Plan.similar_collect (c.engine.similar_limit 1 hfg)).bind fun rows _ hrows => ?_
    obtain rfl := hrows
    exact .pure rfl
  | construct template =>
    refine (Plan.similar_collect hfg).bind fun rows _ hrows => ?_
    obtain rfl := hrows
    refine (Plan.similar_instances hI template _).bind fun ts _ hts => ?_
    obtain rfl := hts
    exact .pure rfl
  | describe =>
    rw [hq] at hform
    have houtgoing : Plan.Similar R (q.scope c) (Plan.bgp [Describe.outgoing]) := by
      refine Plan.similar_bgp hI.dataset _ fun qs hqs s t r hR hr => ?_
      have hx : Touch.Hides R (q.scope c) (.lookup (q.scope c).active qs) := hform _ (List.mem_map_of_mem hqs)
      exact hx s t r hR hr
    have hfound := (q.scope c).engine.similar_mergeMap (fun s => .ofList (Describe.resources s)) hfg
    refine (houtgoing _ _ ((q.scope c).engine.similar_distinct Solution.key hfound)).bind fun f g hfg => ?_
    refine (Plan.similar_collect hfg).bind fun rows _ hrows => ?_
    obtain rfl := hrows
    refine (Plan.similar_instances hI _ rows).bind fun ts _ hts => ?_
    obtain rfl := hts
    exact .pure rfl

/-- A query that creates no graph leaves the dataset as it is. -/
theorem dataset_evaluate {q : Query} {s : Store} (h : ∀ x ∈ q.touches c, x.CreatesNone s.dataset) :
    ((q.evaluate c).run s).2.dataset = s.dataset := by
  have hlasting : Lasting fun t : Store => t.dataset = s.dataset := ⟨fun _ _ ht => ht, fun _ _ _ _ ht => ht⟩
  have hides : ∀ x ∈ q.touches c, x.Hides (Same fun t : Store => t.dataset = s.dataset) (q.scope c) :=
    Touch.hides_of_createsNone (fun _ _ ht => ht.holds) h fun _ ps _ _ _ r _ _ => hlasting.similar_cachedBgp _ r ps
  have hrun := q.similar_evaluate hlasting.indistinct hides s s ⟨rfl, rfl⟩
  exact hrun.snd.holds

end Query

end SparqlAlgebra

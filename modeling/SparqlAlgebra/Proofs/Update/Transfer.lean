import SparqlAlgebra.Proofs.Session.Found
import SparqlAlgebra.Proofs.Update.Replace
import SparqlAlgebra.Proofs.Update.Sequence

/-!
# Transfers between graphs

Adding, copying and moving are made of clearing graphs and of an insertion for all triples of the source, which are
looked up like those of any other pattern. Each triple has one solution, and the solution makes the same triple again,
blank nodes included; so what a transfer does can be said of the sets of triples alone.
-/

namespace SparqlAlgebra

open Join

variable {c : Scope} {d : Dataset} {st : Store} {source target name : GraphName} {t : Triple} {m : Solution}

namespace UpdateOperation

/-! ## All triples of a graph -/

/-- The solution that stands for a triple. -/
theorem exists_match?_anyTriple (t : Triple) : ∃ m, anyTriple.match? t = some m := by
  let m : Solution :=
    ((Solution.empty.insert ⟨"s"⟩ t.subject.toTerm).insert ⟨"p"⟩ (.iri t.predicate)).insert ⟨"o"⟩ t.object
  have hbind : anyTriple.bind m = .ofTriple t := by
    simp [m, anyTriple, TriplePattern.bind, TriplePattern.ofTriple, Slot.bind, IriSlot.bind]
  obtain ⟨m', hm', -⟩ := TriplePattern.exists_match? hbind
  exact ⟨m', hm'⟩

/-- It makes the same triple again, in the graph that the template is for, and no other. -/
theorem makes_anyTriple_iff {r : Renaming} {q : Quad} (h : anyTriple.match? t = some m) :
    QuadPattern.Makes r m ⟨anyTriple, slotOf target⟩ q ↔ q = ⟨t, target⟩ := by
  obtain ⟨hbind, -⟩ := TriplePattern.match?_eq_some_iff.1 h
  simp only [TriplePattern.bind, TriplePattern.ofTriple, anyTriple, TriplePattern.mk.injEq] at hbind
  obtain ⟨hs, hp, ho⟩ := hbind
  have hslot : ∀ v u, (Slot.var v).bind m = .term u → m.get? v = some u := by
    intro v u hv
    rw [Slot.bind] at hv
    cases hm : m.get? v <;> simp_all
  rw [IriSlot.bind_eq_iri_iff] at hp
  have hgraph : (slotOf target).instantiate? m = some target := by
    cases target with
    | default => rfl
    | named iri => rfl
  have hquad : QuadPattern.instantiate? r m ⟨anyTriple, slotOf target⟩ = some ⟨t, target⟩ := by
    simp [QuadPattern.instantiate?, hgraph, TriplePattern.instantiate?, anyTriple, Slot.instantiate?,
      IriSlot.instantiate?, hslot _ _ hs, hslot _ _ hp, hslot _ _ ho]
  rw [← QuadPattern.instantiate?_eq_some_iff, hquad, Option.some.injEq, eq_comm]

/-- The look-up of all triples of a graph. -/
def lookupOf (c : Scope) (source : GraphName) : Lookup := ⟨c.settings, .single source, [anyTriple]⟩

/-- The look-up of all triples has a solution for every triple. -/
theorem mem_solutions_lookupOf :
    m ∈ (lookupOf c source).solutions d ↔ ∃ t ∈ (d.graph source).triples, anyTriple.match? t = some m := by
  have hsolutions : ((lookupOf c source).solutions d : Multiset Solution) =
      anyTriple.matchesIn ((GraphRef.single source).tripleSet d) := by
    rw [Lookup.coe_solutions, lookupOf, solutions_cons, solutions_nil, Solution.join_empty]
  rw [← Multiset.mem_coe, hsolutions, mem_matchesIn]
  simp [GraphRef.mem_tripleSet, GraphRef.leaves]

/-- An insertion for all triples of a graph makes these triples in the other graph. -/
theorem mem_freshInstances_lookupOf {seed : Nat} {q : Quad} :
    q ∈ QuadPattern.freshInstances [⟨anyTriple, slotOf target⟩] seed ((lookupOf c source).solutions d) ↔
      q.graph = target ∧ q.triple ∈ (d.graph source).triples := by
  rw [QuadPattern.mem_freshInstances]
  constructor
  · rintro ⟨i, m, hi, p, hp, hmakes⟩
    obtain ⟨t, ht, hm⟩ := mem_solutions_lookupOf.1 (List.mem_of_getElem? hi)
    rw [List.mem_singleton.1 hp, makes_anyTriple_iff hm] at hmakes
    rw [hmakes]
    exact ⟨rfl, ht⟩
  · rintro ⟨rfl, ht⟩
    obtain ⟨m, hm⟩ := exists_match?_anyTriple q.triple
    obtain ⟨i, hi⟩ := List.getElem?_of_mem (mem_solutions_lookupOf.2 ⟨q.triple, ht, hm⟩)
    exact ⟨i, m, hi, _, List.mem_singleton_self _, (makes_anyTriple_iff hm).2 rfl⟩

/-- For a graph that is there, the pattern of all triples looks it up. -/
theorem looksUp_allOf (hthere : st.dataset.hasGraph source = true) :
    Plan.LooksUp (c.withActive (activeOf source)) st.dataset [anyTriple] (lookupOf c source) where
  settings := rfl
  active := by
    cases source with
    | default => rfl
    | named iri => exact if_pos hthere
  plan := rfl
  notEmpty := rfl

section Insert

variable (hactive : c.active = .default) (hvisible : c.visible = none)
include hactive hvisible

/-- The triples of a graph that is there are looked up in that graph. -/
theorem run_plan_allOf (hthere : st.dataset.hasGraph source = true) :
    ((allOf source).plan.fromEmpty c).run st =
      (Plan.bgp [anyTriple] (c.withActive (activeOf source)) (.ofList [.empty])).run st := by
  cases source with
  | default =>
    have hc : c.withActive .default = c := by
      rw [← hactive]
      rfl
    rw [allOf, Pattern.plan, activeOf, hc]
    rfl
  | named iri =>
    have hsee : c.canSee st.dataset iri = true := by
      rw [Scope.canSee, hvisible]
      exact hthere
    rw [allOf, Pattern.plan, Pattern.plan, Plan.fromEmpty, Plan.graph, Build.run_bind_ok (Build.run_get st), if_pos hsee]
    rfl

/-- An insertion for all triples of a graph that is there does not fail. -/
theorem exists_insertAllOf (target : GraphName) (hthere : st.dataset.hasGraph source = true) :
    ∃ t, (lookupOf c source).SameFor st t ∧ (insertAllOf c source target).run st =
      (.ok (), applyTemplates [] [⟨anyTriple, slotOf target⟩] ((lookupOf c source).delivered st) t) := by
  obtain ⟨stage, hstage, hy⟩ := Plan.run_bgp (looksUp_allOf hthere)
  rw [← run_plan_allOf hactive hvisible hthere] at hstage
  have hshown : ((lookupOf c source).delivered st).map (HiddenVariable.hide (HiddenVariable.ofPatterns [anyTriple])) =
      (lookupOf c source).delivered st := by
    have hnone : HiddenVariable.ofPatterns [anyTriple] = [] := rfl
    rw [hnone, List.map_congr_left fun s _ => HiddenVariable.hide_nil s, List.map_id']
  rw [hshown] at hy
  exact replace_of_yields [] _ none hstage hy (.refl _ st)

/-- Where kept solutions are not asked for, it inserts the triples of the source, and nothing else changes. -/
theorem insertAllOf_becomes (target : GraphName) (hthere : st.dataset.hasGraph source = true)
    (hoff : CacheOff c.settings st.dataset st) :
    ∃ st', (insertAllOf c source target).run st = (.ok (), st') ∧
      st.dataset.Becomes st'.dataset (fun _ => False)
        (fun q => q.graph = target ∧ q.triple ∈ (st.dataset.graph source).triples) := by
  obtain ⟨t, hsame, hrun⟩ := exists_insertAllOf hactive hvisible target hthere
  have hdelivered : (lookupOf c source).delivered st = (lookupOf c source).solutions st.dataset := by
    rw [Lookup.delivered, Lookup.found?_of_cacheOff hoff]
    rfl
  refine ⟨_, hrun, ?_⟩
  have hbecomes := st.dataset.becomes_insertQuads []
    (QuadPattern.freshInstances [⟨anyTriple, slotOf target⟩] t.seed ((lookupOf c source).solutions st.dataset))
  simp only [mem_freshInstances_lookupOf, List.not_mem_nil] at hbecomes
  have hnone : QuadPattern.instances [] ((lookupOf c source).solutions st.dataset) = [] := by
    rw [QuadPattern.instances, List.flatMap_eq_nil_iff]
    exact fun _ _ => rfl
  rw [applyTemplates, hsame.dataset, hdelivered, hnone]
  exact hbecomes

end Insert

/-- Clearing a graph that may be missing does not fail. -/
theorem run_clearIfThere (name : GraphName) (st : Store) :
    (clearIfThere name).run st = (.ok (), st.withDataset (st.dataset.modify name (·.clear))) := by
  rw [clearIfThere, change, Build.run_bind_ok (Build.run_get st), Dataset.clear]
  cases hthere : st.dataset.hasGraph name with
  | true =>
    rw [Dataset.demand_eq_ok_iff.2 hthere]
    rfl
  | false =>
    rw [Dataset.modify_of_missing hthere]
    cases hdemand : st.dataset.demand name with
    | ok _ => rfl
    | error e => rfl

end UpdateOperation

/-- What a transfer makes of a dataset. A target that is not there counts as empty. -/
structure Dataset.Transferred (old : Dataset) (kind : Transfer) (source target : GraphName) (new : Dataset) : Prop where
  /-- The target has the triples of the source. Only adding leaves those that it had. -/
  mem_target : ∀ t, t ∈ (new.graph target).triples ↔
    t ∈ (old.graph source).triples ∨ kind = .add ∧ t ∈ (old.graph target).triples
  /-- Moving empties the source. -/
  source_move : kind = .move → (new.graph source).triples = []
  /-- The source stays as it was unless it is moved. -/
  source_eq : kind ≠ .move → new.graph? source = old.graph? source
  /-- All other graphs stay as they were. -/
  other_eq : ∀ name, name ≠ source → name ≠ target → new.graph? name = old.graph? name
  /-- No graph disappears, and only a target into which something is inserted comes into being. -/
  hasGraph_iff : ∀ name, new.hasGraph name ↔
    old.hasGraph name ∨ name = target ∧ ∃ t, t ∈ (old.graph source).triples

/-- The triples of one graph are inserted into another one. -/
abbrev Dataset.Inserts (old : Dataset) (source target : GraphName) (new : Dataset) : Prop :=
  old.Becomes new (fun _ => False) fun q => q.graph = target ∧ q.triple ∈ (old.graph source).triples

namespace Dataset

variable {old new : Dataset}

/-- Insertions change no graph but the target. -/
theorem Inserts.graph?_eq_of_ne (h : old.Inserts source target new) (hne : name ≠ target) :
    new.graph? name = old.graph? name :=
  h.graph?_eq name fun _ => ⟨id, fun hq => hne hq.1⟩

namespace Transferred

/-- An addition is the insertions alone. -/
theorem add (h : old.Inserts source target new) (hne : source ≠ target) : old.Transferred .add source target new where
  mem_target t := by
    rw [h.mem_iff]
    simp [or_comm]
  source_move := nofun
  source_eq _ := h.graph?_eq_of_ne hne
  other_eq _ _ hother := h.graph?_eq_of_ne hother
  hasGraph_iff name := by
    rw [h.hasGraph_iff]
    simp

/-- Copying is adding to the cleared target. -/
theorem copy (h : (old.modify target (·.clear)).Inserts source target new) (hne : source ≠ target) :
    old.Transferred .copy source target new := by
  have hsame : ∀ other, other ≠ target → (old.modify target (·.clear)).graph? other = old.graph? other := by
    intro other hother
    rw [graph?_modify]
    simp [hother.symm]
  have hsource : (old.modify target (·.clear)).graph source = old.graph source := graph_modify_of_ne hne.symm _
  refine ⟨fun t => ?_, nofun, fun _ => ?_, fun name _ hother => ?_, fun name => ?_⟩
  · rw [h.mem_iff, mem_modify_clear, hsource]
    simp
  · rw [h.graph?_eq_of_ne hne, hsame source hne]
  · rw [h.graph?_eq_of_ne hother, hsame name hother]
  · rw [h.hasGraph_iff, hasGraph_modify, hsource]
    simp

/-- Moving is clearing the source of a copy. -/
theorem move (h : old.Transferred .copy source target new) (hne : source ≠ target) :
    old.Transferred .move source target (new.modify source (·.clear)) where
  mem_target t := by
    rw [mem_modify_clear, h.mem_target]
    simp [hne]
  source_move _ := List.eq_nil_iff_forall_not_mem.2 fun t ht => (mem_modify_clear.1 ht).1 rfl
  source_eq hkind := absurd rfl hkind
  other_eq name hname hother := by
    rw [graph?_modify, h.other_eq name hname hother]
    simp [hname.symm]
  hasGraph_iff name := by
    rw [hasGraph_modify]
    exact h.hasGraph_iff name

end Transferred

end Dataset

namespace UpdateOperation

/-- A source that is there is the one thing that a transfer between two graphs asks for. -/
theorem run_executeTransfer (kind : Transfer) (silent : Bool) (hne : source ≠ target)
    (hthere : st.dataset.hasGraph source = true) :
    (executeTransfer c kind source target silent).run st = (transferBetween c source target kind).run st := by
  have hidle : isIdle st.dataset source target kind = false := by
    cases kind <;> simp [isIdle, hne]
  rw [executeTransfer, Build.run_bind_ok (Build.run_get st)]
  dsimp only
  rw [hidle, Dataset.demand_eq_ok_iff.2 hthere]
  rfl

/-- Between two graphs of which the source is there, a transfer does what its kind says. -/
theorem transferBetween_transferred (kind : Transfer) (hactive : c.active = .default) (hvisible : c.visible = none)
    (hne : source ≠ target) (hthere : st.dataset.hasGraph source = true) (hoff : CacheOff c.settings st.dataset st) :
    ∃ st', (transferBetween c source target kind).run st = (.ok (), st') ∧
      st.dataset.Transferred kind source target st'.dataset := by
  have hcopied : ∃ st', (transferBetween c source target .copy).run st = (.ok (), st') ∧
      st.dataset.Transferred .copy source target st'.dataset := by
    have hstill : (st.withDataset (st.dataset.modify target (·.clear))).dataset.hasGraph source = true := by
      rwa [Store.withDataset, Dataset.hasGraph_modify]
    obtain ⟨st', hrun, hinserts⟩ := insertAllOf_becomes hactive hvisible target hstill ⟨rfl, hoff.2⟩
    refine ⟨st', ?_, .copy hinserts hne⟩
    rw [transferBetween, Build.run_bind_ok (run_clearIfThere target st)]
    exact hrun
  cases kind with
  | add =>
    obtain ⟨st', hrun, hinserts⟩ := insertAllOf_becomes hactive hvisible target hthere hoff
    exact ⟨st', hrun, .add hinserts hne⟩
  | copy => exact hcopied
  | move =>
    obtain ⟨st', hrun, hcopy⟩ := hcopied
    have hmove : transferBetween c source target .move =
        transferBetween c source target .copy >>= fun _ => clearIfThere source := by
      simp [transferBetween]
    refine ⟨st'.withDataset (st'.dataset.modify source (·.clear)), ?_, hcopy.move hne⟩
    rw [hmove, Build.run_bind_ok hrun, run_clearIfThere]

end UpdateOperation

namespace Session

variable {x : Session} {hints : Option Hints}

/-- An update sees every named graph. -/
theorem visible_scope (x : Session) (hints : Option Hints) : (x.scope hints).visible = none := by
  cases hints <;> rfl

/-- Adding, copying and moving between two different graphs of which the source is there do not fail, and have the
effect that they are named for: on the sets of triples of the two graphs, and on nothing else. Solutions that have been
kept must not be asked for. -/
theorem update_transfer (kind : Transfer) (silent : Bool) (hne : source ≠ target)
    (hthere : st.dataset.hasGraph source = true) (hoff : CacheOff (x.scope hints).settings st.dataset st) :
    ∃ st', x.update [.transfer kind source target silent] hints st = (.ok (), st') ∧
      st.dataset.Transferred kind source target st'.dataset := by
  have hactive := active_scope x hints
  have hvisible := visible_scope x hints
  obtain ⟨st', hrun, hdone⟩ := UpdateOperation.transferBetween_transferred kind hactive hvisible hne hthere hoff
  refine ⟨st'.clearCache, ?_, hdone⟩
  rw [update_single, UpdateOperation.execute, UpdateOperation.run_executeTransfer kind silent hne hthere, hrun]

/-- A graph with a blank node is moved over the default graph, which had a triple of its own. -/
theorem update_transfer_blank :
    let p : Iri := ⟨"http://example.com/p"⟩
    let g : Iri := ⟨"http://example.com/g"⟩
    let d : Dataset := ⟨(Graph.empty defaultGraphIri .none).insert ⟨.iri p, p, .iri p⟩,
      [(g, (Graph.empty g .none).insert ⟨.blank ⟨"b"⟩, p, .blank ⟨"b"⟩⟩)], fun _ => .none⟩
    let x : Session := ⟨⟨.streaming, ⟨15, .structural, true⟩⟩, ⟨[], .iri p⟩⟩
    let st : Store := ⟨d, none, 0⟩
    GraphName.named g ≠ .default ∧ st.dataset.hasGraph (.named g) = true ∧
      CacheOff (x.scope none).settings st.dataset st ∧
      ∃ st', x.update [.transfer .move (.named g) .default false] none st = (.ok (), st') ∧
        st.dataset.Transferred .move (.named g) .default st'.dataset := by
  intro p g d x st
  have hthere : st.dataset.hasGraph (.named g) = true := by decide +kernel
  have hoff : CacheOff (x.scope none).settings st.dataset st := ⟨rfl, fun _ => rfl⟩
  exact ⟨nofun, hthere, hoff, update_transfer .move false nofun hthere hoff⟩

end Session

end SparqlAlgebra

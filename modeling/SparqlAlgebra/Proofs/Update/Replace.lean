import SparqlAlgebra.Proofs.Plan.Local
import SparqlAlgebra.Proofs.Storage.Dataset
import SparqlAlgebra.Proofs.Update.Similar
import SparqlAlgebra.Proofs.Update.Templates

/-!
# Deleting and inserting at once

An operation that is given by a pattern takes all solutions from the dataset as it is before the operation. What it
deletes and inserts is therefore one change of the set of quads, although it is carried out quad by quad in graphs that
the pattern also reads.
-/

namespace SparqlAlgebra

/-- One dataset becomes another one by deleting some quads and then inserting others. -/
structure Dataset.Becomes (old new : Dataset) (deleted inserted : Quad → Prop) : Prop where
  /-- What is there afterwards was there and has not been deleted, or has been inserted. -/
  mem_iff : ∀ name t, t ∈ (new.graph name).triples ↔
    (t ∈ (old.graph name).triples ∧ ¬ deleted ⟨t, name⟩) ∨ inserted ⟨t, name⟩
  /-- No graph disappears, and only an insertion makes one. -/
  hasGraph_iff : ∀ name, new.hasGraph name ↔ old.hasGraph name ∨ ∃ t, inserted ⟨t, name⟩
  /-- A graph of which nothing is deleted and into which nothing is inserted is the same as before. -/
  graph?_eq : ∀ name, (∀ t, ¬ deleted ⟨t, name⟩ ∧ ¬ inserted ⟨t, name⟩) → new.graph? name = old.graph? name

/-- Deleting quads and then inserting others gives the dataset that the two sets determine. -/
theorem Dataset.becomes_insertQuads (d : Dataset) (deleted inserted : List Quad) :
    d.Becomes ((d.deleteQuads deleted).insertQuads inserted) (· ∈ deleted) (· ∈ inserted) where
  mem_iff name t := by rw [mem_insertQuads, mem_deleteQuads]
  hasGraph_iff name := by rw [hasGraph_insertQuads, hasGraph_deleteQuads]
  graph?_eq name h := by
    rw [graph?_insertQuads_of_untouched fun t => (h t).2, graph?_deleteQuads_of_untouched fun t => (h t).1]

namespace Pattern

variable {R : Store → Store → Prop} {c : Scope} {p : Pattern} {st : Store}

/-- An evaluation from the empty solution has the same result in related stores if nothing that it touches shows a
difference. -/
theorem similar_collected (hI : Indistinct R) (h : ∀ x ∈ p.touches c.active, x.Hides R c) :
    Build.Similar R Eq (p.plan.fromEmpty c >>= Plan.collect) (p.plan.fromEmpty c >>= Plan.collect) := by
  have hplan : Plan.Similar R c p.plan := p.similar_plan hI.dataset _ _ ⟨h, .inr hI.redraws⟩ (.refl _)
  exact (hplan _ _ (.ofList [.empty])).bind fun _ _ hfg => Plan.similar_collect hfg

/-- An evaluation that asks no service leaves the dataset as it is. -/
theorem dataset_collected (hp : p.isLocal = true) (c : Scope) (st : Store) :
    ((p.plan.fromEmpty c >>= Plan.collect).run st).2.dataset = st.dataset := by
  have hlasting : Lasting fun t : Store => t.dataset = st.dataset := ⟨fun _ _ ht => ht, fun _ _ _ _ ht => ht⟩
  have hides : ∀ x ∈ p.touches c.active, x.Hides (Same fun t : Store => t.dataset = st.dataset) c :=
    Touch.hides_of_createsNone (fun _ _ ht => ht.holds) (p.createsNone_of_isLocal hp _)
      fun _ ps _ _ _ r _ _ => hlasting.similar_cachedBgp _ r ps
  exact (similar_collected hlasting.indistinct hides st st ⟨rfl, rfl⟩).snd.holds

end Pattern

namespace UpdateOperation

variable {c : Scope} {st st₁ : Store} (delete insert : List QuadPattern) {choice : Option QueryDataset} {p : Pattern}
  {rows : List Solution}

/-- Where kept solutions are not asked for, or can all serve, the solutions are those of a store that has kept none. -/
theorem collected_withoutCache
    (h : c.settings.hints.useCache = false ∨ Served c (.deleteInsert delete insert choice p) st) :
    ((p.plan.fromEmpty (c.withDataset choice) >>= Plan.collect).run { st with cache := none }).1 =
      ((p.plan.fromEmpty (c.withDataset choice) >>= Plan.collect).run st).1 := by
  have hdata : SameData { st with cache := none } st := ⟨rfl, rfl⟩
  rcases h with hunused | hserved
  · have hides : ∀ x ∈ p.touches (c.withDataset choice).active, x.Hides SameData (c.withDataset choice) :=
      fun x _ => SameData.hides (by rw [c.settings_withDataset, hunused]) x
    exact (Pattern.similar_collected SameData.robust.toIndistinct hides _ _ hdata).fst_eq
  · have hserves := Serves.of_current hserved.apart
    have hides := Touch.hides_of_serves hserves (fun _ hl => hl) hserved.createsNone
    have halike : Alike st.dataset
        (Current st.dataset (lookups c st.dataset (.deleteInsert delete insert choice p)))
        { st with cache := none } st :=
      ⟨rfl, rfl, rfl, nofun, hserved.current⟩
    exact (Pattern.similar_collected Alike.indistinct hides _ _ halike).fst_eq

/-- The templates are instantiated only when all solutions are there. -/
theorem replace_eq (c : Scope) (delete insert : List QuadPattern) (choice : Option QueryDataset) (p : Pattern) :
    replace c delete insert choice p =
      (p.plan.fromEmpty (c.withDataset choice) >>= Plan.collect) >>= fun rows =>
        modify (applyTemplates delete insert rows) :=
  (bind_assoc _ _ _).symm

/-- If the evaluation of the pattern fails, so does the operation, and the dataset stays as it is. -/
theorem execute_deleteInsert_of_error {e : QueryError} (hlocal : p.isLocal = true)
    (h : (p.plan.fromEmpty (c.withDataset choice) >>= Plan.collect).run st = (.error e, st₁)) :
    ((UpdateOperation.deleteInsert delete insert choice p).execute c).run st = (.error e, st₁) ∧
      st₁.dataset = st.dataset := by
  have hkept := Pattern.dataset_collected hlocal (c.withDataset choice) st
  rw [h] at hkept
  rw [execute, replace_eq, Build.run_bind, h]
  exact ⟨rfl, hkept⟩

/-- An operation of which the pattern asks no service and has solutions takes the quads that the deletion templates make
of them out of the dataset and puts in those that the insertion templates make, all at once and with fresh nodes for
blank ones. The solutions are those of the dataset before the operation, also where solutions are kept, unless
something out of date is served. -/
theorem execute_deleteInsert (hlocal : p.isLocal = true)
    (hrows : (p.plan.fromEmpty (c.withDataset choice) >>= Plan.collect).run st = (.ok rows, st₁)) :
    st₁.dataset = st.dataset ∧
    (c.settings.hints.useCache = false ∨ Served c (.deleteInsert delete insert choice p) st →
      ((p.plan.fromEmpty (c.withDataset choice) >>= Plan.collect).run { st with cache := none }).1 = .ok rows) ∧
    ∃ (st' : Store) (node : Nat → Renaming),
      ((UpdateOperation.deleteInsert delete insert choice p).execute c).run st = (.ok (), st') ∧
      FreshNodes insert st₁.seed node ∧ st'.seed = st₁.seed + rows.length ∧
      st.dataset.Becomes st'.dataset (fun q => ∃ s ∈ rows, ∃ template ∈ delete, template.Makes id s q)
        (fun q => ∃ i s, rows[i]? = some s ∧ ∃ template ∈ insert, template.Makes (node i) s q) := by
  have hdataset : st₁.dataset = st.dataset := by
    have hkept := Pattern.dataset_collected hlocal (c.withDataset choice) st
    rwa [hrows] at hkept
  refine ⟨hdataset, fun h => ?_, applyTemplates delete insert rows st₁, _, ?_, freshNodes insert st₁.seed, rfl, ?_⟩
  · rw [collected_withoutCache delete insert h, hrows]
  · rw [execute, replace_eq, Build.run_bind_ok hrows]
    rfl
  · have hbecomes := st.dataset.becomes_insertQuads (QuadPattern.instances delete rows)
      (QuadPattern.freshInstances insert st₁.seed rows)
    simp only [QuadPattern.mem_instances, QuadPattern.mem_freshInstances] at hbecomes
    rw [applyTemplates, hdataset]
    exact hbecomes

/-- The status of two persons is moved to a graph that is made for it, and each change is described by a node of its
own. -/
theorem execute_deleteInsert_statuses :
    let iri : String → Iri := fun name => ⟨"http://example.com/" ++ name⟩
    let s : Variable := ⟨"s"⟩
    let status : Iri := iri "status"
    let triple : String → Triple := fun name => ⟨.iri (iri name), status, .iri (iri "old")⟩
    let old : TriplePattern := ⟨.var s, .iri status, .term (.iri (iri "old"))⟩
    let new : TriplePattern := ⟨.var s, .iri status, .term (.iri (iri "new"))⟩
    let change : TriplePattern := ⟨.term (.blank ⟨"change"⟩), .iri (iri "of"), .var s⟩
    let delete : List QuadPattern := [⟨old, .default⟩]
    let insert : List QuadPattern := [⟨new, .named (.iri (iri "now"))⟩, ⟨change, .default⟩]
    let c : Scope := ⟨⟨.streaming, .standard⟩, ⟨[], .iri status⟩, .default, none⟩
    let st : Store :=
      ⟨⟨(Graph.empty defaultGraphIri .none).insertAll [triple "a", triple "b"], [], fun _ => .none⟩, none, 0⟩
    let rows : List Solution := [Solution.empty.insert s (.iri (iri "a")), Solution.empty.insert s (.iri (iri "b"))]
    let evaluated := (Plan.fromEmpty (Pattern.plan (.bgp [old])) (c.withDataset none) >>= Plan.collect).run st
    Pattern.isLocal (.bgp [old]) = true ∧ evaluated = (.ok rows, evaluated.2) ∧
      ∃ (st' : Store) (node : Nat → Renaming),
        ((UpdateOperation.deleteInsert delete insert none (.bgp [old])).execute c).run st = (.ok (), st') ∧
        FreshNodes insert evaluated.2.seed node ∧
        st.dataset.Becomes st'.dataset (fun q => ∃ s ∈ rows, ∃ template ∈ delete, template.Makes id s q)
          (fun q => ∃ i s, rows[i]? = some s ∧ ∃ template ∈ insert, template.Makes (node i) s q) := by
  intro iri s status triple old new change delete insert c st rows evaluated
  have hlocal : Pattern.isLocal (.bgp [old]) = true := rfl
  have hvalue : evaluated.1 = .ok rows := by decide +kernel
  have hrows : evaluated = (.ok rows, evaluated.2) := Prod.ext hvalue rfl
  obtain ⟨-, -, st', node, hrun, hfresh, -, hbecomes⟩ := execute_deleteInsert delete insert hlocal hrows
  exact ⟨hlocal, hrows, st', node, hrun, hfresh, hbecomes⟩

end UpdateOperation

end SparqlAlgebra

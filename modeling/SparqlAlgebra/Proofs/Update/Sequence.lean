import SparqlAlgebra.Proofs.Update.Similar
import SparqlAlgebra.Session

/-!
# Requests of several operations

What has been kept is forgotten at the end of a request, but not between its operations. So the operations of a
request have the same effect as requests of their own if none of the later ones can be served with solutions that
an earlier one has made out of date.
-/

namespace SparqlAlgebra

variable {c : Scope} {st : Store}

/-- Once everything kept has been forgotten, stores with the same dataset and the same room are the same. -/
theorem SameData.clearCache_eq {s t : Store} (h : SameData s t)
    (hroom : s.cache.map Cache.clear = t.cache.map Cache.clear) : s.clearCache = t.clearCache := by
  rw [Store.clearCache, Store.clearCache, hroom]
  obtain ⟨d, cache, n⟩ := s
  obtain ⟨hd, hn⟩ := h
  dsimp only at hd hn
  rw [hd, hn]

namespace UpdateOperation

/-- What a store has kept does not keep an operation from seeing the present dataset: nothing is kept, kept
solutions are not asked for, or all look-ups of the operation find current ones. -/
def SeesPresent (c : Scope) (op : UpdateOperation) (st : Store) : Prop :=
  st.kept = [] ∨ c.settings.hints.useCache = false ∨ Served c op st

/-- Each of some operations sees the present dataset when its turn comes. -/
def AllSeePresent (c : Scope) : List UpdateOperation → Store → Prop
  | [], _ => True
  | op :: ops, st => op.SeesPresent c st ∧ ∀ st', (op.execute c).run st = (.ok (), st') → AllSeePresent c ops st'

/-- Every operation after the first sees the present dataset when its turn comes. -/
def LaterSeePresent (c : Scope) : List UpdateOperation → Store → Prop
  | [], _ => True
  | op :: ops, st => ∀ st', (op.execute c).run st = (.ok (), st') → AllSeePresent c ops st'

/-- What every operation sees, every later one sees. -/
theorem AllSeePresent.later {ops : List UpdateOperation} (h : AllSeePresent c ops st) : LaterSeePresent c ops st := by
  cases ops with
  | nil => trivial
  | cons op ops => exact h.2

/-- Operations that do not ask for kept solutions see the present dataset. -/
theorem allSeePresent_of_unused (hc : c.settings.hints.useCache = false) (ops : List UpdateOperation) (st : Store) :
    AllSeePresent c ops st := by
  induction ops generalizing st with
  | nil => trivial
  | cons op ops ih => exact ⟨.inr (.inl hc), fun st' _ => ih st'⟩

/-- Operations on a store that has no room to keep solutions see the present dataset. -/
theorem allSeePresent_of_noCache (ops : List UpdateOperation) (hst : st.cache = none) : AllSeePresent c ops st := by
  induction ops generalizing st with
  | nil => trivial
  | cons op ops ih =>
    refine ⟨.inl (by simp [Store.kept, hst]), fun st' hrun => ih ?_⟩
    have hroom := execute_room c op st
    rw [hrun, hst] at hroom
    exact Option.map_eq_none_iff.1 hroom

/-- A store that keeps nothing has nothing to forget. -/
theorem clearCache_of_kept (h : st.kept = []) : st.clearCache = st := by
  obtain ⟨d, cache, n⟩ := st
  cases cache with
  | none => rfl
  | some k =>
    obtain ⟨capacity, entries⟩ := k
    obtain rfl : entries = [] := h
    rfl

/-- A store without entries serves every operation that another one does. -/
theorem Served.clearCache {op : UpdateOperation} (h : Served c op st) : Served c op st.clearCache where
  createsNone := h.createsNone
  apart := h.apart
  current := by simp

/-- An operation that sees the present dataset does the same after everything kept has been forgotten. -/
theorem SeesPresent.execute_clearCache {op : UpdateOperation} (hc : c.active = .default) (h : op.SeesPresent c st) :
    ((op.execute c).run st.clearCache).1 = ((op.execute c).run st).1 ∧
      ((op.execute c).run st.clearCache).2.clearCache = ((op.execute c).run st).2.clearCache := by
  have hdata : SameData st.clearCache st := ⟨rfl, rfl⟩
  have hcap : st.clearCache.cache.map Cache.clear = st.cache.map Cache.clear := by
    cases hk : st.cache <;> simp [Store.clearCache, hk, Cache.clear]
  have hroom : ((op.execute c).run st.clearCache).2.cache.map Cache.clear =
      ((op.execute c).run st).2.cache.map Cache.clear := by
    rw [execute_room, execute_room, hcap]
  have hsame : SameResult SameData Eq ((op.execute c).run st.clearCache) ((op.execute c).run st) →
      ((op.execute c).run st.clearCache).1 = ((op.execute c).run st).1 ∧
        ((op.execute c).run st.clearCache).2.clearCache = ((op.execute c).run st).2.clearCache :=
    fun h => ⟨h.fst_eq, h.snd.clearCache_eq hroom⟩
  rcases h with h | h | h
  · rw [clearCache_of_kept h]
    exact ⟨rfl, rfl⟩
  · exact hsame (execute_run (.sameData h) hdata)
  · exact hsame (execute_run (.served hc) ⟨hdata, h.clearCache, h⟩)

end UpdateOperation

namespace Session

variable {x : Session} {hints : Option Hints}

/-- Carries out each operation by a request of its own, up to the first that fails. -/
def updateEach (x : Session) (hints : Option Hints) : List UpdateOperation → Store → Except QueryError Unit × Store
  | [], st => (.ok (), st)
  | op :: ops, st =>
    match x.update [op] hints st with
    | (.ok _, st) => updateEach x hints ops st
    | (.error e, st) => (.error e, st)

/-- Updates run with the default graph as the active one. -/
theorem active_scope (x : Session) (hints : Option Hints) : (x.scope hints).active = .default := by
  cases hints <;> rfl

/-- A request of a single operation carries it out and forgets what has been kept. -/
theorem update_single (op : UpdateOperation) (st : Store) :
    x.update [op] hints st =
      (((op.execute (x.scope hints)).run st).1, ((op.execute (x.scope hints)).run st).2.clearCache) := by
  rw [update, executeAll, Build.run_bind]
  rcases (op.execute (x.scope hints)).run st with ⟨_ | _, t⟩ <;> rfl

/-- If the operations all see the present dataset, starting over after each of them makes no difference. -/
theorem executeAll_eq_updateEach {ops : List UpdateOperation}
    (h : UpdateOperation.AllSeePresent (x.scope hints) ops st) :
    (((executeAll (x.scope hints) ops).run st).1, ((executeAll (x.scope hints) ops).run st).2.clearCache) =
      x.updateEach hints ops st.clearCache := by
  induction ops generalizing st with
  | nil => rfl
  | cons op ops ih =>
    obtain ⟨hop, hops⟩ := h
    obtain ⟨hv, hst⟩ := hop.execute_clearCache (active_scope x hints)
    rw [updateEach, update_single, hv, hst, executeAll, Build.run_bind]
    rcases hrun : (op.execute (x.scope hints)).run st with ⟨e | _, t⟩
    · rfl
    · exact ih (hops t hrun)

/-- Clearing a cache twice is clearing it once. -/
theorem clearCache_clearCache (st : Store) : st.clearCache.clearCache = st.clearCache :=
  UpdateOperation.clearCache_of_kept st.kept_clearCache

/-- A request has the result of requests of a single operation each, and leaves the same store, if every operation
after the first sees the present dataset when its turn comes. -/
theorem update_eq_updateEach {ops : List UpdateOperation}
    (h : UpdateOperation.LaterSeePresent (x.scope hints) ops st) :
    x.update ops hints st = (x.updateEach hints ops st).map id Store.clearCache := by
  cases ops with
  | nil => rfl
  | cons op ops =>
    rw [updateEach, update_single, update, executeAll, Build.run_bind]
    rcases hrun : (op.execute (x.scope hints)).run st with ⟨e | _, t⟩
    · exact congrArg (Prod.mk (Except.error e)) (clearCache_clearCache t).symm
    · have heach := executeAll_eq_updateEach (h t hrun)
      dsimp only
      rw [← heach, Prod.map, clearCache_clearCache]
      rfl

/-- An insertion into a named graph, and then one for the triples of the default graph, which an earlier request has
looked up. -/
theorem update_eq_updateEach_elsewhere :
    let p : Iri := ⟨"http://example.com/p"⟩
    let g : Iri := ⟨"http://example.com/g"⟩
    let triple : Triple := ⟨.iri p, p, .iri p⟩
    let d : Dataset := ⟨(Graph.empty defaultGraphIri .none).insert triple, [], fun _ => .none⟩
    let x : Session := ⟨⟨.streaming, ⟨15, .structural, true⟩⟩, ⟨[], .iri p⟩⟩
    let l : Lookup := ⟨x.settings, .single .default, [UpdateOperation.anyTriple]⟩
    let st : Store := ⟨d, some ⟨8, [l.entry d]⟩, 0⟩
    let ops : List UpdateOperation := [.insertData [⟨triple, .named g⟩],
      .deleteInsert [] [⟨UpdateOperation.anyTriple, .named (.iri g)⟩] none (.bgp [UpdateOperation.anyTriple])]
    UpdateOperation.LaterSeePresent (x.scope none) ops st ∧
      x.update ops none st = (x.updateEach none ops st).map id Store.clearCache := by
  intro p g triple d x l st ops
  have hps : Plan.lookedUp [UpdateOperation.anyTriple] = [[UpdateOperation.anyTriple]] := rfl
  have hlater : UpdateOperation.LaterSeePresent (x.scope none) ops st := by
    intro st' hrun
    obtain rfl : (⟨d.insertQuads [⟨triple, .named g⟩], some ⟨8, [l.entry d]⟩, 1⟩ : Store) = st' :=
      congrArg Prod.snd hrun
    have hsame : l.graph.SameIn d (d.insertQuads [⟨triple, .named g⟩]) := by
      intro name hname
      obtain rfl : name = .default := List.mem_singleton.1 hname
      rfl
    refine ⟨.inr (.inr (.of_keptFor (T := {l}) ?_ ?_ ?_)), fun _ _ => trivial⟩
    · intro y hy
      rw [UpdateOperation.touches_deleteInsert, Query.touches_bgp hps] at hy
      rw [List.mem_singleton.1 hy]
      trivial
    · have hmem : ∀ m ∈ {l} ∪ UpdateOperation.lookups (x.scope none) (d.insertQuads [⟨triple, .named g⟩]) ops[1], m = l := by
        rintro m (hm | hm)
        · exact hm
        · obtain ⟨hs, hp, hg⟩ := Query.eq_of_mem_lookups_bgp hps (UpdateOperation.lookups_deleteInsert ▸ hm)
          cases m
          rw [Lookup.mk.injEq]
          exact ⟨hs, hg, hp⟩
      intro m hm n hn _
      rw [hmem m hm, hmem n hn]
    · intro e he
      exact ⟨l, rfl, (List.mem_singleton.1 he).trans (Lookup.entry_congr hsame)⟩
  exact ⟨hlater, update_eq_updateEach hlater⟩

end Session

end SparqlAlgebra

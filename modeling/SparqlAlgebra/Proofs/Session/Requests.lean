import SparqlAlgebra.Proofs.Update.Sequence

/-!
# Sessions with and without kept solutions

A session asks queries and changes the dataset between them. Whether solutions are kept does not show in its answers
if look-ups that are made between two changes find each other's entries only where their solutions are the same. The
key of an entry does not see to that: it names the graph by its IRI alone, and all unions share one.
-/

namespace SparqlAlgebra

variable {x : Session} {s t : Store} {seen : Set Lookup}

/-- A request of a session. -/
inductive Request where
  | query (q : Query) (hints : Option Hints)
  | insert (name : GraphName) (triple : Triple)
  | remove (triple : Triple)
  /-- An update of a single operation. -/
  | update (op : UpdateOperation) (hints : Option Hints)

/-- What a request is answered with. -/
inductive Answer where
  | query (result : Except QueryError QueryResult)
  /-- Whether the triples have changed. -/
  | changed (value : Bool)
  | update (result : Except QueryError Unit)

namespace Request

/-- Carries out a request. -/
def run (x : Session) (st : Store) : Request → Answer × Store
  | .query q hints => ((x.query q hints st).map .query id)
  | .insert name triple => (st.insert name triple).map .changed id
  | .remove triple => (st.remove triple).map .changed id
  | .update op hints => (x.update [op] hints st).map .update id

/-- Whether a request makes the store forget what has been kept. -/
def forgets (st : Store) : Request → Bool
  | .query .. => false
  | .insert name triple => (st.insert name triple).1
  | .remove triple => (st.remove triple).1
  | .update .. => true

/-- What a request touches. -/
def touches (x : Session) : Request → List Touch
  | .query q hints => q.touches (x.scope hints)
  | .update op hints => op.touches (x.scope hints)
  | _ => []

/-- The look-ups of a request. -/
def lookups (x : Session) (d : Dataset) : Request → Set Lookup
  | .query q hints => q.lookups (x.scope hints) d
  | .update op hints => op.lookups (x.scope hints) d
  | _ => ∅

end Request

namespace Session

/-- The answers to the requests of a session. -/
def answers (x : Session) : List Request → Store → List Answer
  | [], _ => []
  | r :: rs, st => (r.run x st).1 :: answers x rs (r.run x st).2

/-- Each look-up of a session finds only entries with its own solutions: since the last request that has made the
store forget, none with the same key and other solutions has been made. No request creates the graph of a service.
`seen` are the look-ups made so far. -/
def KeysTellApart (x : Session) (seen : Set Lookup) : List Request → Store → Prop
  | [], _ => True
  | r :: rs, st =>
    (∀ y ∈ r.touches x, y.CreatesNone st.dataset) ∧ ToldApart st.dataset (seen ∪ r.lookups x st.dataset) ∧
      KeysTellApart x (if r.forgets st then ∅ else seen ∪ r.lookups x st.dataset) rs (r.run x st).2

end Session

/-! ## Sessions side by side -/

namespace Alike

variable {d d' : Dataset} {S : Set Lookup}

/-- Forgetting on both sides leaves nothing that would have to be good. -/
theorem of_clearCache (h : SameData s t) : Alike t.dataset (KeptFor t.dataset S) s.clearCache t.clearCache where
  left := h.dataset
  right := rfl
  seed := h.seed
  keptLeft := by simp
  keptRight := by simp

/-- Stores with entries for the same look-ups have the same data. -/
theorem sameData (h : Alike d (KeptFor d S) s t) : SameData s t := ⟨h.left.trans h.right.symm, h.seed⟩

/-- A change on both sides forgets what has been kept, unless it leaves all graphs as they are. -/
theorem withChange {changed : Bool} (h : Alike d (KeptFor d S) s t)
    (hgraph : changed = false → ∀ name, d.graph name = d'.graph name) :
    Alike d' (KeptFor d' (if changed then ∅ else S)) (s.withChange changed d') (t.withChange changed d') := by
  unfold Store.withChange
  cases changed with
  | false => exact h.withDataset fun _ _ name _ => hgraph rfl name
  | true => exact of_clearCache (t := t.withDataset d') ⟨rfl, h.seed⟩

end Alike

namespace Request

variable {d : Dataset}

/-- A request is answered alike on both sides, and leaves the stores alike. -/
theorem run_alike {r : Request} (h : Alike d (KeptFor d seen) s t) (hnone : ∀ y ∈ r.touches x, y.CreatesNone d)
    (hapart : ToldApart d (seen ∪ r.lookups x d)) :
    (r.run x s).1 = (r.run x t).1 ∧
      ∃ d', Alike d' (KeptFor d' (if r.forgets t then ∅ else seen ∪ r.lookups x d)) (r.run x s).2 (r.run x t).2 := by
  cases r with
  | query q hints =>
    have hserves := Serves.of_keptFor hapart (Set.subset_union_right (s := seen))
    have hides := Touch.hides_of_serves hserves (fun _ hl => hl) hnone
    have hrun : SameResult (Alike d (KeptFor d (seen ∪ q.lookups (x.scope hints) d))) Eq
        (x.query q hints s) (x.query q hints t) :=
      q.similar_evaluate Alike.indistinct hides s t (h.mono Set.subset_union_left)
    exact ⟨congrArg Answer.query hrun.fst_eq, d, hrun.snd⟩
  | insert name triple =>
    have hrun : (s.insert name triple) = ((t.insert name triple).1, s.withChange (t.insert name triple).1
        ((t.dataset.ensure name).modify name (·.insert triple))) := by
      rw [Store.insert, Store.insert, h.left, h.right]
    rw [Request.run, Request.run, hrun]
    refine ⟨rfl, _, (h.mono Set.subset_union_left).withChange fun hold other => ?_⟩
    have hthere : ((t.dataset.ensure name).graph name).contains triple = true := by
      simpa [forgets, Store.insert] using hold
    rw [← h.right, Dataset.graph_insert_of_contains hthere]
  | remove triple =>
    have hrun : (s.remove triple) = ((t.remove triple).1, s.withChange (t.remove triple).1
        (t.dataset.modify .default (·.delete triple))) := by
      rw [Store.remove, Store.remove, h.left, h.right]
    rw [Request.run, Request.run, hrun]
    refine ⟨rfl, _, (h.mono Set.subset_union_left).withChange fun hold other => ?_⟩
    have hmissing : (t.dataset.graph .default).contains triple = false := hold
    rw [← h.right, Dataset.graph_delete_of_missing hmissing]
  | update op hints =>
    have hdata := h.sameData
    obtain rfl := h.right
    have hright : UpdateOperation.Served (x.scope hints) op t := .of_keptFor hnone hapart h.keptRight
    have hleft : UpdateOperation.Served (x.scope hints) op s := by
      rw [← h.left] at hnone hapart h
      exact .of_keptFor hnone hapart h.keptLeft
    have hrun := UpdateOperation.execute_run (.served (Session.active_scope x hints)) ⟨hdata, hleft, hright⟩
    rw [Request.run, Request.run, Session.update_single, Session.update_single]
    exact ⟨congrArg Answer.update hrun.fst_eq, _, .of_clearCache hrun.snd⟩

end Request

namespace Session

variable {d : Dataset}

/-- Stores that are alike answer all requests of a session alike, as long as keys tell the look-ups apart. -/
theorem answers_eq_of_alike {rs : List Request} (h : Alike d (KeptFor d seen) s t)
    (hkeys : x.KeysTellApart seen rs t) : x.answers rs s = x.answers rs t := by
  induction rs generalizing d seen s t with
  | nil => rfl
  | cons r rs ih =>
    obtain ⟨hnone, hapart, hrest⟩ := hkeys
    rw [h.right] at hnone hapart hrest
    obtain ⟨hanswer, d', halike⟩ := r.run_alike h hnone hapart
    rw [answers, answers, hanswer, ih halike hrest]

/-- A session has the answers of the session that keeps nothing, as long as each look-up finds only entries with its
own solutions. -/
theorem answers_eq_withoutCache {st : Store} {rs : List Request} (hkept : st.kept = [])
    (hkeys : x.KeysTellApart ∅ rs { st with cache := none }) :
    x.answers rs st = x.answers rs { st with cache := none } := by
  have halike : Alike st.dataset (KeptFor st.dataset ∅) st { st with cache := none } :=
    ⟨rfl, rfl, rfl, by simp [hkept], by simp [Store.kept]⟩
  exact answers_eq_of_alike halike hkeys

/-- A query leaves the dataset to the requests after it. -/
theorem KeysTellApart.query {q : Query} {hints : Option Hints} {rs : List Request}
    (hnone : ∀ y ∈ q.touches (x.scope hints), y.CreatesNone s.dataset)
    (hapart : ToldApart s.dataset (seen ∪ q.lookups (x.scope hints) s.dataset))
    (hrest : ∀ t, t.dataset = s.dataset → x.KeysTellApart (seen ∪ q.lookups (x.scope hints) s.dataset) rs t) :
    x.KeysTellApart seen (.query q hints :: rs) s :=
  ⟨hnone, hapart, hrest _ (Query.dataset_evaluate hnone)⟩

/-- All triples of the default graph, those of a union, and after an insertion those of another union. -/
theorem answers_eq_withoutCache_unions :
    let p : Iri := ⟨"http://example.com/p"⟩
    let g : Iri := ⟨"http://example.com/g"⟩
    let h : Iri := ⟨"http://example.com/h"⟩
    let triple : Triple := ⟨.iri p, p, .iri p⟩
    let d : Dataset := ⟨.empty defaultGraphIri .none, [(g, (Graph.empty g .none).insert triple), (h, .empty h .none)],
      fun _ => .none⟩
    let st : Store := ⟨d, some (.empty 8), 0⟩
    let x : Session := ⟨⟨.streaming, ⟨15, .structural, true⟩⟩, ⟨[], .iri p⟩⟩
    let all : Option QueryDataset → Query := fun choice => ⟨.select, .bgp [UpdateOperation.anyTriple], choice⟩
    let rs : List Request := [.query (all none) none, .query (all (some ⟨[g], none⟩)) none, .insert .default triple,
      .query (all (some ⟨[h], none⟩)) none]
    st.kept = [] ∧ x.KeysTellApart ∅ rs { st with cache := none } ∧
      x.answers rs st = x.answers rs { st with cache := none } := by
  intro p g h triple d st x all rs
  have hps : Plan.lookedUp [UpdateOperation.anyTriple] = [[UpdateOperation.anyTriple]] := rfl
  have hnone : ∀ choice d, ∀ y ∈ (all choice).touches (x.scope none), y.CreatesNone d := by
    intro choice d y hy
    rw [Query.touches_bgp hps] at hy
    rw [List.mem_singleton.1 hy]
    trivial
  have hnamed : d.WellNamed := ⟨rfl, by decide, rfl, rfl⟩
  have hfirst : ToldApart d (∅ ∪ (all none).lookups (x.scope none) d ∪
      (all (some ⟨[g], none⟩)).lookups (x.scope none) d) := by
    have hmem : ∀ l ∈ ∅ ∪ (all none).lookups (x.scope none) d ∪ (all (some ⟨[g], none⟩)).lookups (x.scope none) d,
        l.settings = x.settings ∧ l.patterns = [UpdateOperation.anyTriple] ∧
          (l.graph = .single .default ∨ l.graph = .union [.single (.named g)]) := by
      rintro l ((hl | hl) | hl)
      · exact hl.elim
      · obtain ⟨hs, hp, hg⟩ := Query.eq_of_mem_lookups_bgp hps hl
        exact ⟨hs, hp, .inl hg⟩
      · obtain ⟨hs, hp, hg⟩ := Query.eq_of_mem_lookups_bgp hps hl
        exact ⟨hs, hp, .inr hg⟩
    refine .of_wellNamed hnamed (fun l hl m hm => ?_) (fun l hl name hname => ?_) (fun l hl m hm rs qs hrs hqs => ?_)
      (fun l hl m hm _ => ?_)
    · exact (hmem l hl).1.trans (hmem m hm).1.symm
    · rcases (hmem l hl).2.2 with hg | hg
      · obtain rfl := GraphRef.single.inj (hg.symm.trans hname)
        rfl
      · cases hg.symm.trans hname
    · have hone : ∀ l, l ∈ ∅ ∪ (all none).lookups (x.scope none) d ∪ (all (some ⟨[g], none⟩)).lookups (x.scope none) d →
          ∀ rs, l.graph = .union rs → rs = [.single (.named g)] := by
        intro l hl rs hrs
        rcases (hmem l hl).2.2 with hg | hg
        · cases hg.symm.trans hrs
        · exact (GraphRef.union.inj (hg.symm.trans hrs)).symm
      rw [hone l hl rs hrs, hone m hm qs hqs]
    · exact (hmem l hl).2.1.trans (hmem m hm).2.1.symm
  have hsecond : ∀ d, ToldApart d (∅ ∪ (all (some ⟨[h], none⟩)).lookups (x.scope none) d) := by
    intro d
    rw [Set.empty_union]
    refine .of_names (fun l hl m hm => ?_) (fun l hl m hm _ => ?_) (fun l hl m hm _ => ?_)
    all_goals
      obtain ⟨hls, hlp, hlg⟩ := Query.eq_of_mem_lookups_bgp hps hl
      obtain ⟨hms, hmp, hmg⟩ := Query.eq_of_mem_lookups_bgp hps hm
    · exact hls.trans hms.symm
    · exact hlg.trans hmg.symm
    · exact hlp.trans hmp.symm
  have hkept : st.kept = [] := rfl
  have hkeys : x.KeysTellApart ∅ rs { st with cache := none } := by
    refine .query (hnone _ _) (hfirst.mono Set.subset_union_left) fun s hs => ?_
    obtain hs : s.dataset = d := hs
    refine .query (hnone _ _) (by rw [hs]; exact hfirst) fun t ht => ?_
    rw [hs] at ht ⊢
    have hforgets : (Request.insert .default triple).forgets t = true := by
      change (!((t.dataset.ensure .default).graph .default).contains triple) = true
      rw [ht]
      rfl
    refine ⟨by simp [Request.touches], ?_, ?_⟩
    · rw [ht]
      exact hfirst.mono (Set.union_subset subset_rfl (Set.empty_subset _))
    · rw [if_pos hforgets]
      exact .query (hnone _ _) (hsecond _) fun _ _ => trivial
  exact ⟨hkept, hkeys, answers_eq_withoutCache hkept hkeys⟩

end Session

end SparqlAlgebra

import Mathlib.Data.Set.Basic
import SparqlAlgebra.Proofs.Join.Lookup
import SparqlAlgebra.Proofs.Join.Similar
import SparqlAlgebra.Proofs.Storage.Dataset

/-!
# Solutions that have been kept

A look-up of patterns in a graph finds an entry by the IRI of the graph and the text of the patterns. It may be
served from what has been kept if every entry that it can find holds its own solutions. Then it does not show
whether solutions are kept, which of them, and when they are dropped.
-/

namespace SparqlAlgebra

open Stage Join

/-- The evaluation of patterns in a graph or union. -/
structure Lookup where
  /-- How the look-up is carried out. -/
  settings : Settings
  /-- The graph or union that is looked up. -/
  graph : GraphRef
  /-- The patterns that are evaluated there. -/
  patterns : List TriplePattern

namespace Lookup

variable {d d' : Dataset} {l : Lookup}

/-- What an entry for the look-up is found by. -/
def key (d : Dataset) (l : Lookup) : CacheKey := .ofPatterns (l.graph.iri d) l.patterns

/-- The solutions of the patterns, in the order in which an evaluation finds them. -/
def solutions (d : Dataset) (l : Lookup) : List Solution :=
  match ((bgp l.settings l.graph l.patterns).collect ⟨d, none, 0⟩).1 with
  | .ok ss => ss
  | .error _ => []

/-- What has been kept under the key of the look-up, if kept solutions are asked for. -/
def found? (st : Store) (l : Lookup) : Option (List Solution) :=
  (if l.settings.hints.useCache then st.cache else none).bind fun k => k.get? (l.graph.iri st.dataset) l.patterns

/-- Nothing is found where nothing is kept, or where it is not used. -/
theorem found?_of_cacheOff {st : Store} (h : CacheOff l.settings d st) : l.found? st = none := by
  unfold found?
  split
  · rename_i huse
    rw [h.2 huse]
    rfl
  · rfl

/-- What the look-up delivers: what it finds, and else its own solutions. -/
def delivered (st : Store) (l : Lookup) : List Solution := (l.found? st).getD (l.solutions st.dataset)

/-- What is kept after the look-up. -/
def entry (d : Dataset) (l : Lookup) : CacheKey × List Solution := (l.key d, l.solutions d)

/-- Evaluated from scratch, a look-up delivers its solutions. -/
theorem yields_bgp (d : Dataset) (l : Lookup) :
    Yields (fun s : Store => s.dataset = d) (bgp l.settings l.graph l.patterns) (l.solutions d) := by
  obtain ⟨ss, hy, -⟩ := Join.yields_bgp (P := fun s => s.dataset = d) (fun _ hs => hs) l.settings l.graph l.patterns
  obtain ⟨t, -, hc⟩ := hy.collect (s := ⟨d, none, 0⟩) rfl
  have he : l.solutions d = ss := by rw [solutions, hc]
  rwa [he]

/-- The solutions of a look-up are those of its patterns in the triples of its graph. -/
theorem coe_solutions (d : Dataset) (l : Lookup) :
    (l.solutions d : Multiset Solution) = SparqlAlgebra.solutions (l.graph.tripleSet d) l.patterns := by
  obtain ⟨ss, hss, hm⟩ := collect_bgp l.settings l.graph l.patterns ⟨d, none, 0⟩
  rw [solutions, hss]
  exact hm

/-- The evaluation also keeps every other invariant of stores with this dataset. -/
theorem yields_bgp_of {P : Store → Prop} (hP : ∀ s, P s → s.dataset = d) {s : Store} (hs : P s) :
    Yields P (bgp l.settings l.graph l.patterns) (l.solutions d) := by
  obtain ⟨ss, hy, -⟩ := Join.yields_bgp hP l.settings l.graph l.patterns
  obtain ⟨t, -, hss⟩ := hy.collect hs
  obtain ⟨u, -, hsolutions⟩ := (l.yields_bgp d).collect (hP s hs)
  have he : ss = l.solutions d := Except.ok.inj (congrArg Prod.fst (hss.symm.trans hsolutions))
  rwa [← he]

/-- The solutions depend on nothing but the graphs that are looked at. -/
theorem solutions_congr (h : l.graph.SameIn d d') : l.solutions d = l.solutions d' := by
  have hs : Similar (fun s t : Store => s.dataset = d ∧ t.dataset = d') (bgp l.settings l.graph l.patterns)
      (bgp l.settings l.graph l.patterns) :=
    similar_bgp (fun s t hst => by rwa [hst.1, hst.2]) _ _
  have hv := (hs.collect (s := ⟨d, none, 0⟩) (t := ⟨d', none, 0⟩) ⟨rfl, rfl⟩).1
  rw [solutions, solutions, hv]

/-- The key of a look-up depends only on its graph. -/
theorem key_congr (h : l.graph.SameIn d d') : l.key d = l.key d' := by
  rw [key, key, h.iri]

/-- The entry that a look-up keeps depends only on its graph. -/
theorem entry_congr (h : l.graph.SameIn d d') : l.entry d = l.entry d' := by
  rw [entry, entry, key_congr h, solutions_congr h]

end Lookup

/-- Two of the look-ups with different solutions never share an entry. -/
def ToldApart (d : Dataset) (S : Set Lookup) : Prop :=
  ∀ l ∈ S, ∀ m ∈ S, l.key d = m.key d → l.solutions d = m.solutions d

/-- Look-ups that are among others that are told apart are told apart. -/
theorem ToldApart.mono {d : Dataset} {S T : Set Lookup} (h : ToldApart d T) (hs : S ⊆ T) : ToldApart d S :=
  fun l hl m hm => h l (hs hl) m (hs hm)

/-- Look-ups are told apart if their graphs and their patterns can be told apart by what the keys say of them. -/
theorem ToldApart.of_names {d : Dataset} {S : Set Lookup} (hsettings : ∀ l ∈ S, ∀ m ∈ S, l.settings = m.settings)
    (hgraph : ∀ l ∈ S, ∀ m ∈ S, (l.graph.iri d).text = (m.graph.iri d).text → l.graph = m.graph)
    (hpatterns : ∀ l ∈ S, ∀ m ∈ S, (l.key d).patterns = (m.key d).patterns → l.patterns = m.patterns) :
    ToldApart d S := by
  intro l hl m hm hkey
  have hs : l.settings = m.settings := hsettings l hl m hm
  have hg : l.graph = m.graph := hgraph l hl m hm (congrArg CacheKey.graph hkey)
  have hp : l.patterns = m.patterns := hpatterns l hl m hm (congrArg CacheKey.patterns hkey)
  have hlm : l = m := by
    cases l
    cases m
    rw [Lookup.mk.injEq]
    exact ⟨hs, hg, hp⟩
  rw [hlm]

/-- In a dataset whose graphs are well named, look-ups in single graphs are told apart by graph and pattern. Nothing
tells two unions apart, so there may be one only. -/
theorem ToldApart.of_wellNamed {d : Dataset} {S : Set Lookup} (hd : d.WellNamed)
    (hsettings : ∀ l ∈ S, ∀ m ∈ S, l.settings = m.settings)
    (hthere : ∀ l ∈ S, ∀ name, l.graph = .single name → (d.graph? name).isSome = true)
    (hunion : ∀ l ∈ S, ∀ m ∈ S, ∀ rs qs, l.graph = .union rs → m.graph = .union qs → rs = qs)
    (hpatterns : ∀ l ∈ S, ∀ m ∈ S, (l.key d).patterns = (m.key d).patterns → l.patterns = m.patterns) :
    ToldApart d S := by
  refine .of_names hsettings (fun l hl m hm htext => ?_) hpatterns
  have hiri : l.graph.iri d = m.graph.iri d := congrArg Iri.mk htext
  cases hlg : l.graph with
  | single name =>
    have hn := hthere l hl name hlg
    cases hmg : m.graph with
    | single other =>
      rw [hlg, hmg] at hiri
      rw [hd.eq_of_iri hn (hthere m hm other hmg) hiri]
    | union qs =>
      rw [hlg, hmg] at hiri
      exact absurd hiri (hd.iri_ne_union hn)
  | union rs =>
    cases hmg : m.graph with
    | single other =>
      rw [hlg, hmg] at hiri
      exact absurd hiri.symm (hd.iri_ne_union (hthere m hm other hmg))
    | union qs => rw [hunion l hl m hm rs qs hlg hmg]

/-- The entries that a store has kept. -/
def Store.kept (st : Store) : List (CacheKey × List Solution) := (st.cache.map (·.entries)).getD []

/-- Nothing is kept after the cache has been cleared. -/
@[simp] theorem Store.kept_clearCache (st : Store) : st.clearCache.kept = [] := by
  unfold kept clearCache
  cases st.cache <;> rfl

/-- A new entry takes the place of others, but changes none. -/
theorem Cache.mem_entries_insert {k : Cache} {graph : Iri} {ps : List TriplePattern} {ss : List Solution}
    {e : CacheKey × List Solution} (h : e ∈ (k.insert graph ps ss).entries) :
    e ∈ k.entries ∨ e = (.ofPatterns graph ps, ss) := by
  unfold insert at h
  dsimp only at h
  split at h
  · exact .inl h
  · rcases List.mem_append.1 h with h | h
    · have hk := List.mem_of_mem_filter h
      split at hk
      · exact .inl (List.mem_of_mem_drop hk)
      · exact .inl hk
    · exact .inr (List.mem_singleton.1 h)

/-- What is found is an entry of the cache. -/
theorem Cache.mem_entries_of_get? {k : Cache} {graph : Iri} {ps : List TriplePattern} {ss : List Solution}
    (h : k.get? graph ps = some ss) : (.ofPatterns graph ps, ss) ∈ k.entries := by
  unfold get? at h
  obtain ⟨l₁, l₂, hk, -⟩ := List.lookup_eq_some_iff.1 h
  rw [hk]
  simp

/-- What a look-up finds is one of the entries. -/
theorem Lookup.mem_kept_of_found? {st : Store} {l : Lookup} {ss : List Solution} (h : l.found? st = some ss) :
    (l.key st.dataset, ss) ∈ st.kept := by
  obtain ⟨k, hk, hss⟩ := Option.bind_eq_some_iff.1 h
  have hcache : st.cache = some k := by
    split at hk
    · exact hk
    · cases hk
  have hmem := Cache.mem_entries_of_get? hss
  rw [Store.kept, hcache]
  exact hmem

/-- A property of entries with which look-ups can be served: an entry that one of them finds has its solutions, and
what they keep has the property. -/
structure Serves (d : Dataset) (S : Set Lookup) (good : CacheKey × List Solution → Prop) : Prop where
  /-- An entry that a look-up finds has its solutions. -/
  current : ∀ e, good e → ∀ l ∈ S, e.1 = l.key d → e.2 = l.solutions d
  /-- What a look-up keeps has the property. -/
  keeps : ∀ l ∈ S, good (l.entry d)

/-- The entry has the solutions of each of the look-ups that would find it. -/
def Current (d : Dataset) (S : Set Lookup) (e : CacheKey × List Solution) : Prop :=
  ∀ l ∈ S, e.1 = l.key d → e.2 = l.solutions d

/-- The entry has been kept for one of the look-ups. -/
def KeptFor (d : Dataset) (S : Set Lookup) (e : CacheKey × List Solution) : Prop := ∃ l ∈ S, e = l.entry d

/-- What has been kept for some look-ups has been kept for more. -/
theorem KeptFor.mono {d : Dataset} {S T : Set Lookup} (hs : S ⊆ T) {e : CacheKey × List Solution}
    (h : KeptFor d S e) : KeptFor d T e := by
  obtain ⟨l, hl, he⟩ := h
  exact ⟨l, hs hl, he⟩

/-- What has been kept stays good as long as no graph changes in which it has been looked up. -/
theorem KeptFor.congr {d d' : Dataset} {S : Set Lookup} (hsame : ∀ l ∈ S, l.graph.SameIn d d')
    {e : CacheKey × List Solution} (h : KeptFor d S e) : KeptFor d' S e := by
  obtain ⟨l, hl, rfl⟩ := h
  exact ⟨l, hl, Lookup.entry_congr (hsame l hl)⟩

namespace Serves

variable {d : Dataset} {S T : Set Lookup} {good : CacheKey × List Solution → Prop}

/-- Look-ups that are told apart are served by entries that are current for them. -/
theorem of_current (h : ToldApart d S) : Serves d S (Current d S) :=
  ⟨fun _ he => he, fun l hl m hm hk => h l hl m hm hk⟩

/-- Entries that have been kept for some look-ups serve those among them, if all are told apart. -/
theorem of_keptFor (h : ToldApart d T) (hs : S ⊆ T) : Serves d S (KeptFor d T) where
  current := by
    intro e he l hl hk
    obtain ⟨m, hm, hentry⟩ := he
    subst hentry
    exact h m hm l (hs hl) hk
  keeps l hl := ⟨l, hs hl, rfl⟩

end Serves

/-- Both stores have this dataset and the same seed, and the entries that they have kept have a property. -/
structure Alike (d : Dataset) (good : CacheKey × List Solution → Prop) (s t : Store) : Prop where
  /-- The first store has the dataset. -/
  left : s.dataset = d
  /-- The second store has the dataset. -/
  right : t.dataset = d
  /-- Both stores draw the same values next. -/
  seed : s.seed = t.seed
  /-- The entries of the first store have the property. -/
  keptLeft : ∀ e ∈ s.kept, good e
  /-- The entries of the second store have the property. -/
  keptRight : ∀ e ∈ t.kept, good e

namespace Alike

variable {d d' : Dataset} {good : CacheKey × List Solution → Prop} {S T : Set Lookup} {s t : Store}

/-- It does not matter which of two stores that are alike comes first. -/
theorem symm (h : Alike d good s t) : Alike d good t s :=
  ⟨h.right, h.left, h.seed.symm, h.keptRight, h.keptLeft⟩

/-- Keeping a good entry on one side does not show. -/
theorem keep (h : Alike d good s t) {graph : Iri} {ps : List TriplePattern} {ss : List Solution}
    (hg : good (.ofPatterns graph ps, ss)) :
    Alike d good { s with cache := s.cache.map fun k => k.insert graph ps ss } t := by
  refine ⟨h.left, h.right, h.seed, ?_, h.keptRight⟩
  intro e he
  cases hk : s.cache with
  | none => simp [Store.kept, hk] at he
  | some k =>
    have hmem : e ∈ (k.insert graph ps ss).entries := by simpa [Store.kept, hk] using he
    rcases Cache.mem_entries_insert hmem with he | rfl
    · exact h.keptLeft e (by simpa [Store.kept, hk] using he)
    · exact hg

/-- Stores with entries for some look-ups have entries for more. -/
theorem mono (hs : S ⊆ T) (h : Alike d (KeptFor d S) s t) : Alike d (KeptFor d T) s t :=
  ⟨h.left, h.right, h.seed, fun e he => (h.keptLeft e he).mono hs, fun e he => (h.keptRight e he).mono hs⟩

/-- A change of other graphs goes together with what has been kept. -/
theorem withDataset (hsame : ∀ l ∈ S, l.graph.SameIn d d') (h : Alike d (KeptFor d S) s t) :
    Alike d' (KeptFor d' S) (s.withDataset d') (t.withDataset d') :=
  ⟨rfl, rfl, h.seed, fun e he => (h.keptLeft e he).congr hsame, fun e he => (h.keptRight e he).congr hsame⟩

end Alike

namespace Join

/-- What a look-up goes on with in a store. -/
def cachedIn (c : Settings) (r : GraphRef) (ps : List TriplePattern) (s : Store) : Flow Solution :=
  match if c.hints.useCache then s.cache else none with
  | none => bgp c r ps
  | some k =>
    match k.get? (r.iri s.dataset) ps with
    | some ss => .ofList ss
    | none => keepBgp c r (r.iri s.dataset) ps

/-- What a look-up does depends on what is kept when it runs. -/
theorem cachedBgp_eq (c : Settings) (r : GraphRef) (ps : List TriplePattern) :
    cachedBgp c r ps = .read (cachedIn c r ps) := rfl

section Serving

variable {d : Dataset} {S : Set Lookup} {good : CacheKey × List Solution → Prop} {l : Lookup} {s t : Store}

/-- The store after the solutions of the look-up have been kept in it. -/
def keeping (l : Lookup) (d : Dataset) (s : Store) : Store :=
  { s with cache := s.cache.map fun k => k.insert (l.graph.iri d) l.patterns (l.solutions d) }

/-- A look-up that keeps its solutions delivers them. -/
theorem yields_keepBgp {P : Store → Prop} (hP : ∀ s, P s → s.dataset = d) (hkeep : ∀ s, P s → P (keeping l d s))
    (hs : P s) : Yields P (keepBgp l.settings l.graph (l.graph.iri d) l.patterns) (l.solutions d) := by
  have hgather := l.settings.engine.yields_gather (l.yields_bgp_of hP hs)
  have hkept := l.settings.engine.yields_mapWithState (k := id)
    (f := fun ss (s : Store) => (ss, { s with cache := s.cache.map fun k => k.insert (l.graph.iri d) l.patterns ss }))
    (fun ss hss s hs => ⟨rfl, by rw [List.mem_singleton.1 hss]; exact hkeep s hs⟩) hgather
  have hy := l.settings.engine.yields_mergeMap (fun ss _ => .ofList ss) hkept
  rwa [List.map_id, List.flatMap_singleton] at hy

/-- Keeping its solutions does not show if the entry is good. -/
theorem steady_keepBgp (hg : good (l.entry d)) :
    Steady (Alike d good) (keepBgp l.settings l.graph (l.graph.iri d) l.patterns) := by
  have hP : ∀ s t, Alike d good s t → s.dataset = d := fun _ _ h => h.left
  have hgather := l.settings.engine.yields_gather (l.yields_bgp d)
  refine l.settings.engine.steady_mergeMap (fun ss => .ofList ss) ?_
  refine l.settings.engine.steady_mapWithState hP ?_ (l.settings.engine.steady_gather (steady_bgp _ _ _)) hgather
  intro ss hss s t hR
  rw [List.mem_singleton.1 hss]
  exact hR.keep hg

/-- A look-up delivers what it finds, whatever that is, and else its own solutions. -/
theorem yields_cachedIn {P : Store → Prop} (hP : ∀ s, P s → s.dataset = d)
    (hkeep : l.found? s = none → ∀ u, P u → P (keeping l d u)) (hs : P s) :
    Yields P (cachedIn l.settings l.graph l.patterns s) (l.delivered s) := by
  have hd : s.dataset = d := hP s hs
  unfold cachedIn
  unfold Lookup.delivered Lookup.found? at *
  rw [hd] at hkeep ⊢
  split
  · rename_i hk
    rw [hk]
    exact l.yields_bgp_of hP hs
  · rename_i k hk
    rw [hk, Option.bind_some] at hkeep ⊢
    cases hfound : k.get? (l.graph.iri d) l.patterns with
    | some ss => exact .ofList ss
    | none => exact yields_keepBgp hP (hkeep hfound) hs

/-- What is collected from a look-up is what it finds, or else its solutions. -/
theorem collect_cachedBgp (l : Lookup) (st : Store) :
    ((cachedBgp l.settings l.graph l.patterns).collect st).1 = .ok (l.delivered st) := by
  have hy : Yields (fun s => s.dataset = st.dataset) (cachedIn l.settings l.graph l.patterns st) (l.delivered st) :=
    yields_cachedIn (fun _ hs => hs) (fun _ _ hs => hs) rfl
  obtain ⟨t, -, hrun⟩ := hy.collect (s := st) rfl
  rw [cachedBgp_eq, collect_read, hrun]

/-- A look-up is right if and only if what it finds, if anything, is right. -/
theorem collect_cachedBgp_iff (l : Lookup) (st : Store) :
    ((cachedBgp l.settings l.graph l.patterns).collect st).1 = .ok (l.solutions st.dataset) ↔
      ∀ ss, l.found? st = some ss → ss = l.solutions st.dataset := by
  rw [collect_cachedBgp, Lookup.delivered]
  cases hfound : l.found? st with
  | none => simp
  | some ss => simp

/-- The effects of a look-up do not show if it can be served from what has been kept. -/
theorem steady_cachedIn (hserves : Serves d S good) (hl : l ∈ S) (hR : Alike d good s t) :
    SteadyAt (Alike d good) (cachedIn l.settings l.graph l.patterns s) s := by
  unfold cachedIn
  rw [hR.left]
  split
  · exact steady_bgp _ _ _ s t hR
  · split
    · exact Steady.ofList _ s t hR
    · exact steady_keepBgp (hserves.keeps l hl) s t hR

/-- What a look-up finds in one of two stores alike is right. -/
theorem delivered_of_serves (hserves : Serves d S good) (hl : l ∈ S) (hR : Alike d good s t) :
    l.delivered s = l.solutions d := by
  rw [Lookup.delivered, hR.left]
  cases hfound : l.found? s with
  | none => rfl
  | some ss =>
    have hmem : (l.key d, ss) ∈ s.kept := by
      rw [← hR.left]
      exact l.mem_kept_of_found? hfound
    exact hserves.current _ (hR.keptLeft _ hmem) l hl rfl

/-- A look-up that can be served from what is kept is the same in all stores alike. -/
theorem similar_cachedBgp_of_serves (hserves : Serves d S good) (hl : l ∈ S) :
    Similar (Alike d good) (cachedBgp l.settings l.graph l.patterns) (cachedBgp l.settings l.graph l.patterns) := by
  rw [cachedBgp_eq]
  refine .read fun s t hR => ?_
  have hyields : ∀ s t, Alike d good s t →
      Yields (fun s : Store => s.dataset = d) (cachedIn l.settings l.graph l.patterns s) (l.solutions d) := by
    intro s t hR
    rw [← delivered_of_serves hserves hl hR]
    exact yields_cachedIn (fun _ hs => hs) (fun _ _ hs => hs) hR.left
  have hflip : (fun s t => Alike d good t s) = Alike d good :=
    funext fun s => funext fun t => propext ⟨Alike.symm, Alike.symm⟩
  have hsteady := steady_cachedIn hserves hl hR
  have hsteady' := steady_cachedIn hserves hl hR.symm
  exact hsteady.similarAt (fun _ _ h => ⟨h.left, h.right⟩) (hyields s t hR) (by rwa [hflip]) (hyields t s hR.symm) hR

/-- The store has the dataset, and the entries that it has kept have a property. -/
def Keeps (d : Dataset) (good : CacheKey × List Solution → Prop) (s : Store) : Prop :=
  s.dataset = d ∧ ∀ e ∈ s.kept, good e

/-- A look-up that can be served delivers the solutions of its patterns in all stores that are alike to some store, as
long as keeping these solutions does not lead to others. -/
theorem answered_of_alike {P : Store → Prop} (hserves : Serves d S good) (hl : l ∈ S)
    (hP : ∀ s, P s → ∃ t, Alike d good s t) (hkeep : ∀ s, P s → P (keeping l d s)) :
    Answered P l.settings d l.graph l.patterns := by
  have hd : ∀ s, P s → s.dataset = d := by
    intro s hs
    obtain ⟨t, ht⟩ := hP s hs
    exact ht.left
  refine ⟨hd, l.solutions d, ?_, l.coe_solutions d⟩
  rw [cachedBgp_eq]
  refine .read fun s hs => ?_
  obtain ⟨t, ht⟩ := hP s hs
  rw [← delivered_of_serves hserves hl ht]
  exact yields_cachedIn hd (fun _ => hkeep) hs

/-- A look-up that can be served from what is kept delivers the solutions of its patterns. -/
theorem answered_of_serves (hserves : Serves d S good) (hl : l ∈ S) :
    Answered (Keeps d good) l.settings d l.graph l.patterns := by
  have halike : ∀ s, Keeps d good s → Alike d good s s := fun s hs => ⟨hs.1, hs.1, rfl, hs.2, hs.2⟩
  refine answered_of_alike hserves hl (fun s hs => ⟨s, halike s hs⟩) fun s hs => ?_
  have hkept := (halike s hs).keep (hserves.keeps l hl)
  exact ⟨hkept.left, hkept.keptLeft⟩

end Serving

end Join

end SparqlAlgebra

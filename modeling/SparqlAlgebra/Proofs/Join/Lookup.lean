import SparqlAlgebra.Proofs.Join.Order
import SparqlAlgebra.Proofs.Pattern.Solutions
import SparqlAlgebra.Proofs.Stage.Yields

/-!
# Looking patterns up in graphs

A graph gives the triples that match a pattern, also where it looks the pattern up in its index; a union gives
each triple of its members once. A join with such look-ups is the join with the matches of the pattern, so
joining pattern after pattern, in whatever order, gives the solutions of a basic graph pattern.
-/

namespace SparqlAlgebra

open Solution Stage

variable {d : Dataset} {P : Store → Prop} {g : Engine} {p : TriplePattern} {ps : List TriplePattern}

namespace Graph

/-- Looking up a pattern without variables filters like any other pattern. -/
theorem find_eq_filter (graph : Graph) (p : TriplePattern) :
    graph.find p = graph.triples.filter p.isMatch := by
  unfold find
  cases h : p.toTriple? with
  | none => exact (List.filter_reverse ..).symm
  | some t =>
    have hp := TriplePattern.toTriple?_eq_some_iff.1 h
    have hm : ∀ u, p.isMatch u = (u == t) := by
      intro u
      have hb : p.isBound = true := hp ▸ TriplePattern.isBound_ofTriple t
      rw [Bool.eq_iff_iff, TriplePattern.isMatch_iff, TriplePattern.match?_of_isBound hb, beq_iff_eq, hp]
      constructor
      · rintro ⟨m, hm⟩
        split at hm
        · rename_i he
          exact (TriplePattern.ofTriple_injective he).symm
        · simp at hm
      · rintro rfl
        exact ⟨.empty, by simp⟩
    have hf : p.isMatch = fun u => u == t := funext hm
    dsimp only
    rw [hf, List.filter_beq, graph.nodup_triples.count]
    by_cases ht : t ∈ graph.triples <;> simp [ht]

end Graph

namespace GraphRef

/-- The triples of a graph or union, each once. -/
def tripleSet (d : Dataset) (r : GraphRef) : List Triple :=
  firsts (r.leaves.flatMap fun name => (d.graph name).triples)

/-- The parts of a union of named graphs are these graphs. -/
theorem leaves_union_named (iris : List Iri) :
    (GraphRef.union (iris.map fun iri => .single (.named iri))).leaves = iris.map .named := by
  rw [leaves]
  induction iris with
  | nil => rfl
  | cons iri iris ih =>
    rw [List.map_cons, leavesOfAll, ih]
    rfl

/-- A graph has each of its triples once. -/
theorem nodup_tripleSet (d : Dataset) (r : GraphRef) : (r.tripleSet d).Nodup := nodup_firsts _

/-- The triples of a reference are those of the graphs that it is made of. -/
theorem mem_tripleSet {t : Triple} {r : GraphRef} :
    t ∈ r.tripleSet d ↔ ∃ name ∈ r.leaves, t ∈ (d.graph name).triples := by
  rw [tripleSet, mem_firsts, List.mem_flatMap]

mutual

/-- The triples that are found are those that match, each once. -/
theorem yields_find_mem (hP : ∀ s, P s → s.dataset = d) (g : Engine) (p : TriplePattern) :
    (r : GraphRef) → ∃ found, Yields P (r.find g p) found ∧ found.Nodup ∧
      ∀ t, t ∈ found ↔ (∃ name ∈ r.leaves, t ∈ (d.graph name).triples) ∧ p.isMatch t = true
  | .single name => by
    refine ⟨(d.graph name).find p, .read fun s hs => ?_, ?_, fun t => ?_⟩
    · rw [hP s hs]
      exact .ofList _
    · rw [Graph.find_eq_filter]
      exact (d.graph name).nodup_triples.filter _
    · rw [Graph.find_eq_filter, List.mem_filter]
      simp [leaves]
  | .union members => by
    obtain ⟨found, hf, hm⟩ := yields_findAll_mem hP g p members
    obtain ⟨merged, hy, hp⟩ := g.yields_merge hf
    refine ⟨firsts merged, g.yields_distinct id hy, nodup_firsts _, fun t => ?_⟩
    rw [mem_firsts, hp.mem_iff, hm, leaves]

/-- The triples that are found in some graphs are those in one of them that match. -/
theorem yields_findAll_mem (hP : ∀ s, P s → s.dataset = d) (g : Engine) (p : TriplePattern) :
    (members : List GraphRef) → ∃ found, List.Forall₂ (Yields P) (findAll g p members) found ∧
      ∀ t, t ∈ found.flatten ↔
        (∃ name ∈ leavesOfAll members, t ∈ (d.graph name).triples) ∧ p.isMatch t = true
  | [] => ⟨[], .nil, by simp [leavesOfAll]⟩
  | m :: ms => by
    obtain ⟨x, hx, -, hxm⟩ := yields_find_mem hP g p m
    obtain ⟨xs, hxs, hxsm⟩ := yields_findAll_mem hP g p ms
    refine ⟨x :: xs, .cons hx hxs, fun t => ?_⟩
    rw [List.flatten_cons, List.mem_append, hxm, hxsm, ← or_and_right, leavesOfAll]
    simp only [List.mem_append, or_and_right, exists_or]

end

/-- The triples that are found are those of the graph that match. -/
theorem yields_find (hP : ∀ s, P s → s.dataset = d) (g : Engine) (p : TriplePattern) (r : GraphRef) :
    ∃ found, Yields P (r.find g p) found ∧ found.Perm ((r.tripleSet d).filter p.isMatch) := by
  obtain ⟨found, hf, hn, hm⟩ := yields_find_mem hP g p r
  refine ⟨found, hf, (List.perm_ext_iff_of_nodup hn ((r.nodup_tripleSet d).filter _)).2 fun t => ?_⟩
  rw [hm, List.mem_filter, mem_tripleSet]

end GraphRef

namespace Join

/-- A pattern without variables is found at most once. -/
theorem length_le_one_of_isBound {ts found : List Triple} {q : TriplePattern} (hb : q.isBound = true)
    (hts : ts.Nodup) (hperm : found.Perm (ts.filter q.isMatch)) : found.length ≤ 1 := by
  have hn : found.Nodup := hperm.nodup_iff.2 (hts.filter _)
  have heq : ∀ t ∈ found, q = .ofTriple t := by
    intro t ht
    have hm := (List.mem_filter.1 (hperm.mem_iff.1 ht)).2
    obtain ⟨m, hm⟩ := TriplePattern.isMatch_iff.1 hm
    rw [TriplePattern.match?_of_isBound hb] at hm
    split at hm
    · assumption
    · simp at hm
  match found, hn, heq with
  | [], _, _ => exact Nat.zero_le 1
  | [_], _, _ => exact Nat.le_refl 1
  | t :: u :: rest, hn, heq =>
    have ht := heq t (by simp)
    have hu := heq u (by simp)
    have htu : t = u := TriplePattern.ofTriple_injective (ht.symm.trans hu)
    rw [htu] at hn
    simp at hn

/-- The matches that are found are all matches. -/
theorem filterMap_found {ts found : List Triple} {q : TriplePattern} (s : Solution)
    (hperm : found.Perm (ts.filter q.isMatch)) :
    (found.filterMap (fun t => (q.match? t).bind s.merge?) : Multiset Solution) =
      (q.matchesIn ts).filterMap s.merge? := by
  rw [TriplePattern.matchesIn, Multiset.filterMap_coe, Multiset.coe_eq_coe, List.filterMap_filterMap]
  refine (hperm.filterMap _).trans (.of_eq ?_)
  rw [List.filterMap_filter]
  refine List.filterMap_congr fun t _ => ?_
  rw [TriplePattern.isMatch_eq]
  cases q.match? t <;> simp

/-- A single solution is joined with the matches of a pattern. -/
theorem yields_index_single (hP : ∀ s, P s → s.dataset = d) (g : Engine) (r : GraphRef) (p : TriplePattern)
    (s : Solution) :
    ∃ out, Yields P
        (if (p.bind s).isBound then g.map (fun _ => s) (g.limit 1 (r.find g (p.bind s)))
          else g.filterMap (fun t => ((p.bind s).match? t).bind s.merge?) (r.find g (p.bind s)) :
          Flow Solution) out ∧
      (out : Multiset Solution) = (p.matchesIn (r.tripleSet d)).filterMap s.merge? := by
  obtain ⟨found, hf, hperm⟩ := r.yields_find hP g (p.bind s)
  rw [← filterMap_matchesIn_bind]
  generalize p.bind s = q at *
  rw [← filterMap_found s hperm]
  split
  · rename_i hb
    refine ⟨_, g.yields_map _ (g.yields_limit 1 hf), ?_⟩
    rw [List.take_of_length_le (length_le_one_of_isBound hb (r.nodup_tripleSet d) hperm),
      ← List.filterMap_eq_map]
    refine congrArg _ (List.filterMap_congr fun t ht => ?_)
    have hm := (List.mem_filter.1 (hperm.mem_iff.1 ht)).2
    rw [TriplePattern.isMatch_eq, TriplePattern.match?_of_isBound hb] at hm
    rw [TriplePattern.match?_of_isBound hb]
    split at hm
    · rename_i he
      simp [he]
    · simp at hm
  · exact ⟨_, g.yields_filterMap _ hf, rfl⟩

/-- Joining with a pattern by its index delivers the join with the matches of the pattern. -/
theorem yields_index (hP : ∀ s, P s → s.dataset = d) (g : Engine) (r : GraphRef) (p : TriplePattern)
    {source : Flow Solution} {rows : List Solution} (h : Yields P source rows) :
    ∃ out, Yields P (index g r p source) out ∧
      (out : Multiset Solution) = join rows (p.matchesIn (r.tripleSet d)) := by
  choose k hk hm using yields_index_single hP g r p
  refine ⟨_, g.yields_mergeMap (fun s _ => hk s) h, ?_⟩
  rw [← Multiset.coe_bind, join]
  exact Multiset.bind_congr fun s _ => hm s

/-- Joining with one pattern after another is joining with the solutions of all of them. -/
theorem yields_indexAll (hP : ∀ s, P s → s.dataset = d) (g : Engine) (r : GraphRef) (ps : List TriplePattern)
    {source : Flow Solution} {rows : List Solution} (h : Yields P source rows) :
    ∃ out, Yields P (indexAll g r ps source) out ∧
      (out : Multiset Solution) = join rows (solutions (r.tripleSet d) ps) := by
  induction ps generalizing source rows with
  | nil => exact ⟨rows, h, by simp⟩
  | cons p ps ih =>
    obtain ⟨mid, hy, hm⟩ := yields_index hP g r p h
    obtain ⟨out, ho, he⟩ := ih hy
    refine ⟨out, ho, ?_⟩
    rw [he, hm, solutions_cons, join_assoc]

/-- Evaluating a basic graph pattern delivers its solutions. -/
theorem yields_bgp (hP : ∀ s, P s → s.dataset = d) (c : Settings) (r : GraphRef) (ps : List TriplePattern) :
    ∃ out, Yields P (bgp c r ps) out ∧ (out : Multiset Solution) = solutions (r.tripleSet d) ps := by
  have hall : ∀ qs : List TriplePattern, qs.Perm ps →
      ∃ out, Yields P (indexAll c.engine r qs (.ofList [.empty])) out ∧
        (out : Multiset Solution) = solutions (r.tripleSet d) ps := by
    intro qs hq
    obtain ⟨out, ho, he⟩ := yields_indexAll hP c.engine r qs (.ofList [.empty])
    refine ⟨out, ho, ?_⟩
    rw [he, ← solutions_perm _ hq]
    exact empty_join _
  unfold bgp
  split
  · rename_i hps
    obtain rfl := List.isEmpty_iff.1 hps
    exact ⟨[.empty], .ofList _, rfl⟩
  · -- The order depends on the dataset only, which is the same in all states of the run.
    by_cases hc : (r.capabilities d).estimate = true
    · obtain ⟨qs, hqs, hp⟩ := orderByEstimate_perm hc ps
      obtain ⟨out, ho, he⟩ := hall qs hp
      refine ⟨out, .read fun s hs => ?_, he⟩
      rw [hP s hs, if_pos hc, hqs]
      exact ho
    · cases hord : c.hints.ordering with
      | asWritten =>
        obtain ⟨out, ho, he⟩ := hall ps (.refl _)
        refine ⟨out, .read fun s hs => ?_, he⟩
        rw [hP s hs, if_neg hc]
        exact ho
      | structural =>
        obtain ⟨out, ho, he⟩ := hall _ (TriplePattern.structuralOrder_perm ps)
        refine ⟨out, .read fun s hs => ?_, he⟩
        rw [hP s hs, if_neg hc]
        exact ho

/-- In every state a run of a basic graph pattern ends without a failure with its solutions. -/
theorem collect_bgp (c : Settings) (r : GraphRef) (ps : List TriplePattern) (st : Store) :
    ∃ out, ((bgp c r ps).collect st).1 = .ok out ∧
      (out : Multiset Solution) = solutions (r.tripleSet st.dataset) ps := by
  obtain ⟨out, ho, hm⟩ := yields_bgp (d := st.dataset) (P := fun s => s.dataset = st.dataset) (fun _ hs => hs) c r ps
  obtain ⟨t, -, hc⟩ := ho.collect rfl
  exact ⟨out, by rw [hc], hm⟩

/-- Evaluating a basic graph pattern over a graph or a union of graphs delivers, each once, exactly the solutions
that bind its variables and make each of its patterns a triple of one of the graphs. With other settings and with
the patterns in another order it delivers the same. -/
theorem bgp_exact (c : Settings) (r : GraphRef) (ps : List TriplePattern) (st : Store) :
    ∃ out, ((bgp c r ps).collect st).1 = .ok out ∧ out.Nodup ∧
      (∀ m, m ∈ out ↔ (∀ v, m.binds v = true ↔ ∃ p ∈ ps, v ∈ p.vars) ∧
        ∀ p ∈ ps, ∃ name ∈ r.leaves, ∃ t ∈ (st.dataset.graph name).triples, p.bind m = .ofTriple t) ∧
      ∀ (c' : Settings) (qs : List TriplePattern), ps.Perm qs →
        ∃ out', ((bgp c' r qs).collect st).1 = .ok out' ∧ out.Perm out' := by
  obtain ⟨out, ho, hm⟩ := collect_bgp c r ps st
  have hnodup : out.Nodup := by
    rw [← Multiset.coe_nodup, hm]
    exact nodup_solutions (r.nodup_tripleSet st.dataset)
  refine ⟨out, ho, hnodup, fun m => ?_, fun c' qs hq => ?_⟩
  · have hgraphs : ∀ p : TriplePattern, (∃ t ∈ r.tripleSet st.dataset, p.bind m = .ofTriple t) ↔
        ∃ name ∈ r.leaves, ∃ t ∈ (st.dataset.graph name).triples, p.bind m = .ofTriple t := by
      intro p
      constructor
      · rintro ⟨t, ht, hp⟩
        obtain ⟨name, hname, ht⟩ := GraphRef.mem_tripleSet.1 ht
        exact ⟨name, hname, t, ht, hp⟩
      · rintro ⟨name, hname, t, ht, hp⟩
        exact ⟨t, GraphRef.mem_tripleSet.2 ⟨name, hname, ht⟩, hp⟩
    rw [← Multiset.mem_coe, hm, mem_solutions]
    exact and_congr_right fun _ => forall₂_congr fun p _ => hgraphs p
  · obtain ⟨out', ho', hm'⟩ := collect_bgp c' r qs st
    refine ⟨out', ho', Multiset.coe_eq_coe.1 ?_⟩
    rw [hm, hm', solutions_perm _ hq]

/-- In stores with the dataset a look-up of the patterns delivers their solutions. -/
structure Answered (P : Store → Prop) (c : Settings) (d : Dataset) (r : GraphRef) (ps : List TriplePattern) : Prop where
  /-- The stores have the dataset. -/
  dataset : ∀ s, P s → s.dataset = d
  /-- A look-up delivers the solutions, kept or not. -/
  cached : ∃ out, Yields P (cachedBgp c r ps) out ∧ (out : Multiset Solution) = solutions (r.tripleSet d) ps

/-- Solutions are not kept: either the hints do not want it or there is no cache. -/
def CacheOff (c : Settings) (d : Dataset) (s : Store) : Prop :=
  s.dataset = d ∧ (c.hints.useCache = true → s.cache = none)

/-- A look-up is answered with its solutions if nothing kept is used. -/
theorem answered_of_unkept {P : Store → Prop} {c : Settings} {d : Dataset} (hP : ∀ s, P s → CacheOff c d s)
    (r : GraphRef) (ps : List TriplePattern) : Answered P c d r ps := by
  obtain ⟨out, ho, he⟩ := yields_bgp (P := P) (fun s hs => (hP s hs).1) c r ps
  refine ⟨fun s hs => (hP s hs).1, out, .read fun s hs => ?_, he⟩
  have hn : (if c.hints.useCache = true then s.cache else none) = none := by
    split
    · rename_i hc
      exact (hP s hs).2 hc
    · rfl
  rw [hn]
  exact ho

/-- Where the cache is off, look-ups are answered. -/
theorem answered_of_cacheOff (c : Settings) (d : Dataset) (r : GraphRef) (ps : List TriplePattern) :
    Answered (CacheOff c d) c d r ps := answered_of_unkept (fun _ hs => hs) r ps

end Join

end SparqlAlgebra

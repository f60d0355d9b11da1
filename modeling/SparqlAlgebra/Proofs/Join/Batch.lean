import SparqlAlgebra.Proofs.Join.Lookup
import SparqlAlgebra.Proofs.Join.Marker
import SparqlAlgebra.Proofs.Path.Solutions
import SparqlAlgebra.Proofs.Stage.Passes

/-!
# Joining in batches

Joining solution by solution, pattern by pattern or batch by batch delivers the same bag: the join of the source
with the solutions of the basic graph pattern. In a batch each marked solution finds the row that it belongs to,
because positions differ and are read back; the rows without variables left are joined on their own.

A source that delivers the rows of a bag in an order of its own, perhaps up to a failure, may be joined with a basic
graph pattern or a path as well: each row is joined by itself, however the rows are put into batches.
-/

namespace SparqlAlgebra

open Solution Stage

namespace Join

variable {d : Dataset} {P : Store → Prop} {c : Settings} {r : GraphRef} {ps : List TriplePattern}
  {rows : List Solution} {source : Flow Solution} {s u m : Solution}

/-- A single solution is joined with the patterns filled in with it. -/
theorem yields_filled (hP : ∀ s, P s → s.dataset = d) (c : Settings) (r : GraphRef) (ps : List TriplePattern)
    (s : Solution) :
    ∃ out, Yields P (c.engine.filterMap s.merge? (bgp c r (ps.map (·.bind s)))) out ∧
      (out : Multiset Solution) = (solutions (r.tripleSet d) ps).filterMap s.merge? := by
  obtain ⟨out, ho, he⟩ := yields_bgp hP c r (ps.map (·.bind s))
  refine ⟨_, c.engine.yields_filterMap _ ho, ?_⟩
  rw [← Multiset.filterMap_coe, he, filterMap_solutions_bind]

/-- A single solution is joined with the patterns, which need not be filled in where it binds nothing. -/
theorem yields_single (ha : Answered P c d r ps) (s : Solution) :
    ∃ out,
      Yields P
        (if s.isEmpty then cachedBgp c r ps else c.engine.filterMap s.merge? (bgp c r (ps.map (·.bind s)))) out ∧
      (out : Multiset Solution) = (solutions (r.tripleSet d) ps).filterMap s.merge? := by
  split
  · rename_i he
    rw [Solution.isEmpty_iff] at he
    obtain ⟨out, ho, hm⟩ := ha.cached
    refine ⟨out, ho, ?_⟩
    rw [hm, he, ← singleton_join, empty_join]
  · exact yields_filled ha.dataset c r ps s

/-- Joining solution by solution delivers the join. -/
theorem yields_nested (ha : Answered P c d r ps) (h : Yields P source rows) :
    ∃ out, Yields P (nested c r ps source) out ∧
      (out : Multiset Solution) = join rows (solutions (r.tripleSet d) ps) := by
  choose k hk hm using yields_single ha
  refine ⟨_, c.engine.yields_mergeMap (fun s _ => hk s) h, ?_⟩
  rw [← Multiset.coe_bind, join]
  exact Multiset.bind_congr fun s _ => hm s

/-- Whether a solution leaves no variable in the patterns. -/
def fills (ps : List TriplePattern) (s : Solution) : Bool := (ps.map (·.bind s)).all (·.isBound)

/-- A row that fills all patterns is checked on its own, in the graph and with its own values. -/
theorem batchChecks_eq (c : Settings) (r : GraphRef) (ps : List TriplePattern) (rows : List Solution) :
    batchChecks c r ps rows =
      (rows.filter (fills ps)).map fun s => c.engine.filterMap s.merge? (bgp c r (ps.map (·.bind s))) := by
  induction rows with
  | nil => rfl
  | cons s rows ih =>
    by_cases hs : fills ps s = true
    · rw [List.filter_cons_of_pos hs, List.map_cons, ← ih]
      exact List.filterMap_cons_some (if_pos hs)
    · rw [List.filter_cons_of_neg hs, ← ih]
      exact List.filterMap_cons_none (if_neg hs)

/-- The rows that go through a batch leave a variable open, and their positions are below the number of rows. -/
theorem mem_batchRest {x : Solution × Nat} (h : x ∈ batchRest ps rows) :
    x.2 < rows.length ∧ fills ps x.1 = false := by
  obtain ⟨hx, hf⟩ := List.mem_filter.1 h
  have hlt := List.snd_lt_of_mem_zipIdx hx
  refine ⟨by omega, ?_⟩
  simpa [fills] using hf

/-- The rows that are not checked on their own are those of the rest. -/
theorem map_fst_batchRest (ps : List TriplePattern) (rows : List Solution) :
    (batchRest ps rows).map (·.1) = rows.filter fun s => !fills ps s := by
  have hz : (rows.zipIdx.map (·.1)).filter (fun s => !fills ps s) = rows.filter fun s => !fills ps s := by
    rw [List.zipIdx_map_fst]
  rw [← hz, List.filter_map]
  rfl

/-- The positions of a batch differ. -/
theorem pairwise_batchRest (ps : List TriplePattern) (rows : List Solution) :
    (batchRest ps rows).Pairwise fun x y => x.2 ≠ y.2 := by
  have hz : (rows.zipIdx.map (·.2)).Nodup := by
    rw [List.zipIdx_map_snd]
    exact List.nodup_range'
  exact (List.pairwise_map.1 hz).filter _

/-- The row of a position is found. -/
theorem find?_position {rest : List (Solution × Nat)} {x : Solution × Nat} (hx : x ∈ rest)
    (hn : rest.Pairwise fun x y => x.2 ≠ y.2) : rest.find? (fun y => y.2 == x.2) = some x := by
  induction rest with
  | nil => simp at hx
  | cons y rest ih =>
    obtain ⟨hy, hr⟩ := List.pairwise_cons.1 hn
    rcases List.mem_cons.1 hx with rfl | hx
    · simp
    · have hne := hy x hx
      rw [List.find?_cons_of_neg (by simpa using hne)]
      exact ih hx hr

/-- A marked solution is handed to its row and merged with it. -/
theorem deliver?_rename {rest : List (Solution × Nat)} {x : Solution × Nat} (hx : x ∈ rest)
    (hn : rest.Pairwise fun x y => x.2 ≠ y.2) (hlt : x.2 < 2 ^ 64) (hu : u ≠ .empty) :
    deliver? rest (u.rename (Marker.mark x.2)) = x.1.merge? u := by
  unfold deliver?
  rw [Marker.unmarkSolution?_rename hlt hu]
  simp only [Option.bind_eq_bind, Option.bind_some]
  rw [find?_position hx hn]
  rfl

/-- Where a variable is left in some pattern, each solution binds something. -/
theorem ne_empty_of_mem_solutions {ts : List Triple} (hs : fills ps s = false)
    (h : m ∈ solutions ts (ps.map (·.bind s))) : m ≠ .empty := by
  rw [fills, List.all_eq_false] at hs
  obtain ⟨q, hq, hb⟩ := hs
  rw [TriplePattern.isBound_iff, not_forall] at hb
  obtain ⟨v, hv⟩ := hb
  have hm := (binds_of_mem_solutions h).2 ⟨q, hq, not_not.1 hv⟩
  rintro rfl
  simp [binds] at hm

/-- The solutions of the marked patterns of a row are handed back as what the row is joined with. -/
theorem filterMap_deliver {ts : List Triple} {rest : List (Solution × Nat)} {x : Solution × Nat} (hx : x ∈ rest)
    (hn : rest.Pairwise fun x y => x.2 ≠ y.2) (hlt : x.2 < 2 ^ 64) (hf : fills ps x.1 = false) :
    (solutions ts (ps.map fun p => Marker.markPattern x.2 (p.bind x.1))).filterMap (deliver? rest) =
      (solutions ts ps).filterMap x.1.merge? := by
  have hmap : (ps.map fun p => Marker.markPattern x.2 (p.bind x.1)) =
      (ps.map (·.bind x.1)).map (Marker.markPattern x.2) := by
    rw [List.map_map]
    rfl
  rw [hmap, Marker.solutions_markPattern, Multiset.filterMap_map, ← filterMap_solutions_bind]
  refine filterMap_congr fun u hu => ?_
  exact deliver?_rename hx hn hlt (ne_empty_of_mem_solutions hf hu)

/-- The marked patterns of the rest, evaluated together, hand back what the rows of the rest are joined with. -/
theorem yields_together (hP : ∀ s, P s → s.dataset = d) (c : Settings) (r : GraphRef)
    (ps : List TriplePattern) (rows : List Solution) :
    ∃ out, Yields P
        (c.engine.filterMap (deliver? (batchRest ps rows))
          (union c r ((batchRest ps rows).map fun (s, i) => ps.map fun p => Marker.markPattern i (p.bind s)))) out ∧
      (rows.length ≤ 2 ^ 64 → (out : Multiset Solution) =
        join (rows.filter fun s => !fills ps s : List Solution) (solutions (r.tripleSet d) ps)) := by
  choose k hk hm using yields_bgp hP c r
  have hall : List.Forall₂ (Yields P)
      (((batchRest ps rows).map fun (s, i) => ps.map fun p => Marker.markPattern i (p.bind s)).map (bgp c r))
      ((batchRest ps rows).map fun x => k (ps.map fun p => Marker.markPattern x.2 (p.bind x.1))) := by
    rw [List.map_map, List.forall₂_map_left_iff, List.forall₂_map_right_iff, List.forall₂_same]
    exact fun x _ => hk _
  obtain ⟨ys, hy, hperm⟩ := c.engine.yields_merge hall
  refine ⟨_, c.engine.yields_filterMap _ hy, fun hlen => ?_⟩
  rw [← Multiset.filterMap_coe, Multiset.coe_eq_coe.2 hperm, ← List.flatMap_def, ← Multiset.coe_bind,
    Multiset.filterMap_bind, ← map_fst_batchRest, ← Multiset.map_coe, join, Multiset.bind_map]
  refine Multiset.bind_congr fun x hx => ?_
  obtain ⟨hlt, hf⟩ := mem_batchRest (Multiset.mem_coe.1 hx)
  rw [hm]
  exact filterMap_deliver (Multiset.mem_coe.1 hx) (pairwise_batchRest ps rows) (by omega) hf

/-- Joining a batch delivers the join, unless it is too long for the markers to be read again. -/
theorem yields_batch_of_length (ha : Answered P c d r ps) (rows : List Solution) :
    ∃ out, Yields P (batch c r ps rows) out ∧
      (rows.length ≤ 2 ^ 64 → (out : Multiset Solution) = join rows (solutions (r.tripleSet d) ps)) := by
  unfold batch
  split
  · rename_i he
    obtain ⟨out, ho, hm⟩ := ha.cached
    refine ⟨out, ho, fun _ => ?_⟩
    rw [hm, he]
    exact (empty_join _).symm
  · choose k hk hm using yields_filled ha.dataset c r ps
    have hchecks : List.Forall₂ (Yields P) (batchChecks c r ps rows)
        ((rows.filter (fills ps)).map k) := by
      rw [batchChecks_eq, List.forall₂_map_left_iff, List.forall₂_map_right_iff, List.forall₂_same]
      exact fun s _ => hk s
    have hjoined : (((rows.filter (fills ps)).map k).flatten : Multiset Solution) =
        join (rows.filter (fills ps) : List Solution) (solutions (r.tripleSet d) ps) := by
      rw [← List.flatMap_def, ← Multiset.coe_bind, join]
      exact Multiset.bind_congr fun s _ => hm s
    have hsplit : (rows : Multiset Solution) =
        (rows.filter (fills ps) : List Solution) + (rows.filter fun s => !fills ps s : List Solution) := by
      rw [Multiset.coe_add, Multiset.coe_eq_coe]
      exact (List.filter_append_perm _ rows).symm
    rw [hsplit, add_join, ← hjoined]
    dsimp only
    split
    · rename_i hr
      obtain ⟨ys, hy, hperm⟩ := c.engine.yields_merge hchecks
      refine ⟨ys, by rwa [List.append_nil], fun _ => ?_⟩
      have hnone : (rows.filter fun s => !fills ps s) = [] := by
        rw [← map_fst_batchRest, List.isEmpty_iff.1 hr, List.map_nil]
      rw [hnone, Multiset.coe_eq_coe.2 hperm]
      simp
    · obtain ⟨zs, hz, hzm⟩ := yields_together ha.dataset c r ps rows
      obtain ⟨ys, hy, hperm⟩ := c.engine.yields_merge (List.rel_append hchecks (.cons hz .nil))
      refine ⟨ys, hy, fun hlen => ?_⟩
      rw [Multiset.coe_eq_coe.2 hperm, List.flatten_append, ← Multiset.coe_add, ← hzm hlen]
      simp

/-- A batch delivers the join of its rows with the solutions of the patterns. -/
theorem yields_batch (ha : Answered P c d r ps) (hlen : rows.length ≤ 2 ^ 64) :
    ∃ out, Yields P (batch c r ps rows) out ∧
      (out : Multiset Solution) = join rows (solutions (r.tripleSet d) ps) := by
  obtain ⟨out, ho, hm⟩ := yields_batch_of_length ha rows
  exact ⟨out, ho, hm hlen⟩

/-- Joining batch by batch delivers the join, whatever the size of the batches. -/
theorem yields_bound (ha : Answered P c d r ps) (hc : c.hints.batchSize ≤ 2 ^ 64) (h : Yields P source rows) :
    ∃ out, Yields P (bound c r ps source) out ∧
      (out : Multiset Solution) = join rows (solutions (r.tripleSet d) ps) := by
  by_cases hu : (r.capabilities d).union = true
  · obtain ⟨runs, hr, hflat, hlen⟩ := c.engine.yields_buffer c.hints.batchSize h
    have hb : ∀ run ∈ runs, ∃ out, Yields P (batch c r ps run) out ∧
        (out : Multiset Solution) = join run (solutions (r.tripleSet d) ps) := by
      intro run hrun
      have hl := hlen run hrun
      exact yields_batch ha (by omega)
    choose! k hk hm using hb
    refine ⟨runs.flatMap k, .read fun s hs => ?_, ?_⟩
    · rw [ha.dataset s hs, if_pos hu]
      exact c.engine.yields_mergeMap hk hr
    · rw [← hflat]
      clear hflat hr hlen
      induction runs with
      | nil => rfl
      | cons run runs ih =>
        rw [List.flatMap_cons, List.flatten_cons, ← Multiset.coe_add, ← Multiset.coe_add, add_join,
          hm run List.mem_cons_self]
        congr 1
        exact ih (fun x hx => hk x (List.mem_cons_of_mem _ hx)) fun x hx => hm x (List.mem_cons_of_mem _ hx)
  · obtain ⟨out, ho, hm⟩ := yields_nested ha h
    refine ⟨out, .read fun s hs => ?_, hm⟩
    rw [ha.dataset s hs, if_neg hu]
    exact ho

/-- Joining batch by batch, solution by solution and pattern by pattern ends without a failure and delivers one
and the same bag, for every size of the batches and either engine. -/
theorem bound_nested_indexAll_agree {st : Store} (hb : c.hints.batchSize < 2 ^ 64) (hst : CacheOff c d st)
    (h : Yields (CacheOff c d) source rows) :
    ∃ xs ys zs : List Solution,
      ((bound c r ps source).collect st).1 = .ok xs ∧
      ((nested c r ps source).collect st).1 = .ok ys ∧
      ((indexAll c.engine r ps source).collect st).1 = .ok zs ∧
      xs.Perm ys ∧ ys.Perm zs ∧
      (zs : Multiset Solution) = join rows (solutions (r.tripleSet d) ps) := by
  have ha := answered_of_cacheOff c d r ps
  obtain ⟨xs, hx, hxm⟩ := yields_bound ha (by omega) h
  obtain ⟨ys, hy, hym⟩ := yields_nested ha h
  obtain ⟨zs, hz, hzm⟩ := yields_indexAll (fun s hs => hs.1) c.engine r ps h
  obtain ⟨s, -, hxc⟩ := hx.collect hst
  obtain ⟨t, -, hyc⟩ := hy.collect hst
  obtain ⟨u, -, hzc⟩ := hz.collect hst
  refine ⟨xs, ys, zs, by rw [hxc], by rw [hyc], by rw [hzc], ?_, ?_, hzm⟩
  · exact Multiset.coe_eq_coe.1 (hxm.trans hym.symm)
  · exact Multiset.coe_eq_coe.1 (hym.trans hzm.symm)

/-- A source with a row that fills the pattern, one without bindings and one with a marker in a name, over a graph
that evaluates several patterns in one go, in batches of at most one. -/
theorem bound_nested_indexAll_agree_loops :
    let c : Settings := ⟨.streaming, ⟨0, .structural, true⟩⟩
    let x : Variable := ⟨"x"⟩
    let y : Variable := ⟨"y__bj1"⟩
    let ps : List TriplePattern := [⟨.var x, .iri ⟨"p"⟩, .var x⟩, ⟨.var x, .iri ⟨"p"⟩, .var y⟩]
    let d := (Dataset.empty fun _ => ⟨true, true⟩).modify .default fun g =>
      (g.insert ⟨.iri ⟨"a"⟩, ⟨"p"⟩, .iri ⟨"a"⟩⟩).insert ⟨.iri ⟨"a"⟩, ⟨"p"⟩, .iri ⟨"b"⟩⟩
    let st : Store := ⟨d, none, 0⟩
    let rows : List Solution :=
      [(Solution.empty.insert x (.iri ⟨"a"⟩)).insert y (.iri ⟨"b"⟩), .empty, Solution.empty.insert y (.iri ⟨"a"⟩)]
    c.hints.batchSize < 2 ^ 64 ∧ CacheOff c d st ∧
      Yields (CacheOff c d) (Stage.ofList rows : Flow Solution) rows ∧
      ∃ xs ys zs : List Solution,
        ((bound c (.single .default) ps (.ofList rows)).collect st).1 = .ok xs ∧
        ((nested c (.single .default) ps (.ofList rows)).collect st).1 = .ok ys ∧
        ((indexAll c.engine (.single .default) ps (.ofList rows)).collect st).1 = .ok zs ∧
        xs.Perm ys ∧ ys.Perm zs ∧
        (zs : Multiset Solution) = join rows (solutions ((GraphRef.single .default).tripleSet d) ps) := by
  intro c x y ps d st rows
  have hb : c.hints.batchSize < 2 ^ 64 := by decide
  have hst : CacheOff c d st := ⟨rfl, fun _ => rfl⟩
  have hs : Yields (CacheOff c d) (Stage.ofList rows : Flow Solution) rows := .ofList rows
  exact ⟨hb, hst, hs, bound_nested_indexAll_agree hb hst hs⟩

end Join

/-! ## The rows of a bag -/

variable {P : Store → Prop} {d : Dataset} {mayFail : Prop} {c : Settings} {r : GraphRef} {ps : List TriplePattern}
  {source : Flow Solution} {V : Multiset Solution}

namespace Join

/-- A nested join delivers the join of what its source delivers, and fails only where the source may. -/
theorem within_nested (ha : Answered P c d r ps) (h : Within P mayFail source V) :
    Within P mayFail (nested c r ps source) (join V (solutions (r.tripleSet d) ps)) := by
  refine c.engine.within_mergeMap (fun s _ => ?_) h
  obtain ⟨out, ho, hm⟩ := yields_single ha s
  rw [← hm]
  exact ho.within

/-- Whatever the size of the batches, a source is joined with the solutions of the patterns. -/
theorem within_bound (ha : Answered P c d r ps) (hc : c.hints.batchSize < 2 ^ 64) (h : Within P mayFail source V) :
    Within P mayFail (bound c r ps source) (join V (solutions (r.tripleSet d) ps)) := by
  refine .read fun s hs => ?_
  rw [ha.dataset s hs]
  split
  · refine c.engine.within_mergeMap_buffer c.hints.batchSize (fun run hrun => ?_) h
    have hlen : run.length ≤ 2 ^ 64 := by omega
    obtain ⟨out, ho, hm⟩ := yields_batch ha hlen
    rw [← Solution.join, ← hm]
    exact ho.within
  · exact within_nested ha h

/-- A single run of a source, in whatever states it goes on, is joined with the solutions of the patterns, as long as
nothing is kept and the graphs hold the same triples all along. -/
theorem passes_bound {s t : Store} {S : Multiset Solution} (hoff : ∀ u, P u → c.hints.useCache = true → u.cache = none)
    (hsame : ∀ u, P u → solutions (r.tripleSet u.dataset) ps = S) (hc : c.hints.batchSize < 2 ^ 64)
    (h : Passes P source s V t) : Passes P (bound c r ps source) s (join V S) t := by
  have ha : ∀ u, P u → Answered (· = u) c u.dataset r ps := fun u hu =>
    answered_of_unkept (fun _ hs => ⟨congrArg Store.dataset hs, fun huse => hs ▸ hoff u hu huse⟩) r ps
  refine .read ?_
  split
  · refine c.engine.passes_mergeMap_buffer c.hints.batchSize (fun run hrun u hu => ?_) h
    have hlen : run.length ≤ 2 ^ 64 := by omega
    obtain ⟨out, ho, hm⟩ := yields_batch (ha u hu) hlen
    rw [← Solution.join, ← hsame u hu, ← hm]
    exact ho.within
  · refine c.engine.passes_mergeMap (fun x _ u hu => ?_) h
    obtain ⟨out, ho, hm⟩ := yields_single (ha u hu) x
    rw [← hsame u hu, ← hm]
    exact ho.within

end Join

/-- Each row is joined with the solutions of the path between the ends that it fills in. -/
theorem PathPattern.within_run (q : PathPattern) (hP : ∀ s, P s → s.dataset = d) (g : Engine)
    (r : GraphRef) (h : Within P mayFail source V) :
    Within P mayFail (q.run g r source) (V.bind fun s =>
      (Path.solutions (r.triples d) (q.subject.bind s) q.path (q.object.bind s) : Multiset Solution).filterMap
        s.merge?) := by
  refine g.within_mergeMap (fun s _ => .read fun st hst => ?_) h
  rw [hP st hst]
  exact g.within_filterMap _ (.ofList _)

end SparqlAlgebra

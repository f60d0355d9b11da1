import SparqlAlgebra.Proofs.Pattern.Match
import SparqlAlgebra.Proofs.Solution.Bag

/-!
# Solutions of basic graph patterns

The solutions of a basic graph pattern are the join of the matches of its patterns. In a set of triples they are
the solutions that bind exactly the variables of the patterns and make every pattern one of the triples, each
once; so the order of the patterns does not matter, and bindings may be filled in before or after.
-/

namespace SparqlAlgebra

open Solution

/-- The bag of the matches of a pattern. -/
def TriplePattern.matchesIn (ts : List Triple) (p : TriplePattern) : Multiset Solution :=
  ↑(ts.filterMap p.match?)

/-- The solutions of a basic graph pattern in a list of triples. -/
def solutions (ts : List Triple) (ps : List TriplePattern) : Multiset Solution :=
  joinAll (ps.map (TriplePattern.matchesIn ts))

variable {ts us : List Triple} {p : TriplePattern} {ps qs : List TriplePattern} {s m : Solution}

/-- Without patterns there is the empty solution. -/
@[simp] theorem solutions_nil (ts : List Triple) : solutions ts [] = {.empty} := rfl

/-- The solutions of more patterns are joined with the matches of the first one. -/
@[simp] theorem solutions_cons (ts : List Triple) (p : TriplePattern) (ps : List TriplePattern) :
    solutions ts (p :: ps) = join (p.matchesIn ts) (solutions ts ps) := rfl

/-- The order of the patterns does not matter. -/
theorem solutions_perm (ts : List Triple) (h : ps.Perm qs) : solutions ts ps = solutions ts qs :=
  joinAll_perm (h.map _)

/-- Patterns may be joined one part after the other. -/
theorem solutions_append (ts : List Triple) (ps qs : List TriplePattern) :
    solutions ts (ps ++ qs) = join (solutions ts ps) (solutions ts qs) := by
  induction ps with
  | nil => rw [List.nil_append, solutions_nil, empty_join]
  | cons p ps ih => rw [List.cons_append, solutions_cons, solutions_cons, ih, join_assoc]

/-- The order of the triples does not matter. -/
theorem mem_matchesIn : m ∈ p.matchesIn ts ↔ ∃ t ∈ ts, p.match? t = some m := by
  rw [TriplePattern.matchesIn, Multiset.mem_coe, List.mem_filterMap]

/-- A match binds exactly the variables of its pattern, and turns the pattern into one of the triples. -/
theorem mem_matchesIn_iff :
    m ∈ p.matchesIn ts ↔
      (∀ v, m.binds v = true ↔ v ∈ p.vars) ∧ ∃ t ∈ ts, p.bind m = .ofTriple t := by
  simp only [mem_matchesIn, TriplePattern.match?_eq_some_iff]
  constructor
  · rintro ⟨t, ht, hp, hv⟩
    exact ⟨hv, t, ht, hp⟩
  · rintro ⟨hv, t, ht, hp⟩
    exact ⟨t, ht, hp, hv⟩

/-- Different triples have different matches, so none is listed twice. -/
theorem nodup_matchesIn (h : ts.Nodup) : (p.matchesIn ts).Nodup := by
  refine Multiset.coe_nodup.2 (h.filterMap ?_)
  intro t u m ht hu
  have hpt := (TriplePattern.match?_eq_some_iff.1 ht).1
  have hpu := (TriplePattern.match?_eq_some_iff.1 hu).1
  exact TriplePattern.ofTriple_injective (hpt.symm.trans hpu)

/-- Filling in the bindings of a solution and merging with it is merging with it. -/
theorem filterMap_matchesIn_bind (ts : List Triple) (p : TriplePattern) (s : Solution) :
    ((p.bind s).matchesIn ts).filterMap s.merge? = (p.matchesIn ts).filterMap s.merge? := by
  unfold TriplePattern.matchesIn
  rw [Multiset.filterMap_coe, Multiset.filterMap_coe, List.filterMap_filterMap, List.filterMap_filterMap]
  simp only [TriplePattern.bind_match?_bind_merge?]

/-- Merged with a row, the solutions of some patterns are those of the patterns with the row put in. -/
theorem filterMap_solutions_bind (ts : List Triple) (ps : List TriplePattern) (s : Solution) :
    (solutions ts (ps.map (·.bind s))).filterMap s.merge? = (solutions ts ps).filterMap s.merge? := by
  induction ps with
  | nil => rfl
  | cons p ps ih =>
    rw [List.map_cons, solutions_cons, solutions_cons, ← filterMap_join, filterMap_matchesIn_bind,
      filterMap_join, join_comm, ← filterMap_join, ih, filterMap_join, join_comm]

/-- A pattern that becomes a triple under some bindings becomes the same under more of them. -/
theorem bind_eq_of_extends {c : Solution} {t : Triple} (h : Extends c m) (hp : p.bind m = .ofTriple t) :
    p.bind c = .ofTriple t := by
  simp only [TriplePattern.bind, TriplePattern.ofTriple, TriplePattern.mk.injEq] at hp ⊢
  obtain ⟨hs, hi, ho⟩ := hp
  rw [IriSlot.bind_eq_iri_iff] at hi ⊢
  exact ⟨Slot.bind_of_extends h hs, Slot.bind_of_extends h hi, Slot.bind_of_extends h ho⟩

/-- Where each pattern becomes one of the triples there is a solution. -/
theorem exists_mem_solutions (h : ∀ p ∈ ps, ∃ t ∈ ts, p.bind m = .ofTriple t) :
    ∃ b ∈ solutions ts ps, Extends m b := by
  induction ps with
  | nil => exact ⟨.empty, Multiset.mem_singleton_self _, fun v t h => by simp at h⟩
  | cons p ps ih =>
    obtain ⟨t, ht, hp⟩ := h p List.mem_cons_self
    obtain ⟨b, hb, hmb⟩ := ih fun q hq => h q (List.mem_cons_of_mem _ hq)
    obtain ⟨a, ha, hma⟩ := TriplePattern.exists_match? hp
    obtain ⟨c, hc, hmc⟩ := exists_merge? hma hmb
    exact ⟨c, mem_join.2 ⟨a, mem_matchesIn.2 ⟨t, ht, ha⟩, b, hb, hc⟩, hmc⟩

/-- A solution binds exactly the variables of its patterns. -/
theorem binds_of_mem_solutions {v : Variable} (h : m ∈ solutions ts ps) :
    m.binds v = true ↔ ∃ p ∈ ps, v ∈ p.vars := by
  induction ps generalizing m with
  | nil =>
    obtain rfl := Multiset.mem_singleton.1 h
    simp [binds]
  | cons p ps ih =>
    rw [solutions_cons, mem_join] at h
    obtain ⟨a, ha, b, hb, hm⟩ := h
    rw [binds_of_merge? hm, ih hb, (mem_matchesIn_iff.1 ha).1]
    simp

/-- The solutions bind the variables of the patterns and make every pattern one of the triples. -/
theorem mem_solutions :
    m ∈ solutions ts ps ↔
      (∀ v, m.binds v = true ↔ ∃ p ∈ ps, v ∈ p.vars) ∧ ∀ p ∈ ps, ∃ t ∈ ts, p.bind m = .ofTriple t := by
  constructor
  · intro h
    refine ⟨fun v => binds_of_mem_solutions h, ?_⟩
    induction ps generalizing m with
    | nil => simp
    | cons p ps ih =>
      rw [solutions_cons, mem_join] at h
      obtain ⟨a, ha, b, hb, hm⟩ := h
      obtain ⟨hma, hmb⟩ := extends_of_merge? hm
      intro q hq
      rcases List.mem_cons.1 hq with rfl | hq
      · obtain ⟨-, t, ht, hq⟩ := mem_matchesIn_iff.1 ha
        exact ⟨t, ht, bind_eq_of_extends hma hq⟩
      · obtain ⟨t, ht, hq⟩ := ih hb q hq
        exact ⟨t, ht, bind_eq_of_extends hmb hq⟩
  · rintro ⟨hv, hp⟩
    obtain ⟨b, hb, hmb⟩ := exists_mem_solutions hp
    have he : m = b := hmb.eq fun v h => (binds_of_mem_solutions hb).2 ((hv v).1 h)
    rwa [he]

/-- In a set of triples no solution occurs twice. -/
theorem nodup_solutions (h : ts.Nodup) : (solutions ts ps).Nodup := by
  induction ps with
  | nil => exact Multiset.nodup_singleton _
  | cons p ps ih =>
    refine nodup_join (nodup_matchesIn h) ih ?_ ?_
    · intro a ha b hb v hv
      exact ((mem_matchesIn_iff.1 hb).1 v).2 (((mem_matchesIn_iff.1 ha).1 v).1 hv)
    · intro a ha b hb v hv
      exact (binds_of_mem_solutions hb).2 ((binds_of_mem_solutions ha).1 hv)

/-- Only the set of the triples matters. -/
theorem solutions_congr {us : List Triple} (hts : ts.Nodup) (hus : us.Nodup) (h : ∀ t, t ∈ ts ↔ t ∈ us) :
    solutions ts ps = solutions us ps := by
  refine (Multiset.Nodup.ext (nodup_solutions hts) (nodup_solutions hus)).2 fun m => ?_
  simp only [mem_solutions, h]

end SparqlAlgebra

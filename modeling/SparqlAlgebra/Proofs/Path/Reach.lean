import SparqlAlgebra.Proofs.Path.Relation

/-!
# Terms reached through paths

Following a path from a term finds the terms that it is related to, each once, in either direction; and the pairs
of a path are the related terms of the triples.
-/

namespace SparqlAlgebra

namespace Path

variable {ts : List Triple} {p q : Path} {x y z : Term}

/-- A list holds the terms that a term is related to, each once. -/
def Finds (next : Term → List Term) (R : Term → Term → Prop) : Prop :=
  ∀ x, (next x).Nodup ∧ ∀ y, y ∈ next x ↔ R x y

/-- The ends of a path, the start first. -/
def Direction.ends (d : Direction) (x y : Term) : Term × Term :=
  match d with
  | .forward => (x, y)
  | .backward => (y, x)

/-- A direction decides which end of a path comes first. -/
theorem Direction.relates_iff {d : Direction} :
    d.Relates ts p x y ↔ p.Relates ts (d.ends x y).1 (d.ends x y).2 := by
  cases d <;> rfl

/-- A step from one term to another one is over a triple between them. -/
theorem exists_step_iff (accepts : Iri → Bool) {d : Direction} :
    (∃ t ∈ ts, d.startsAt t x = true ∧ accepts t.predicate = true ∧ d.target t = y) ↔
      ∃ t ∈ ts, t.subject.toTerm = (d.ends x y).1 ∧ accepts t.predicate = true ∧ t.object = (d.ends x y).2 := by
  cases d with
  | forward => simp only [Direction.startsAt, Direction.target, Direction.ends, Resource.isTerm_iff]
  | backward =>
    simp only [Direction.startsAt, Direction.target, Direction.ends, beq_iff_eq]
    refine exists_congr fun t => and_congr_right fun _ => ?_
    constructor
    · rintro ⟨hx, ha, hy⟩
      exact ⟨hy, ha, hx⟩
    · rintro ⟨hy, ha, hx⟩
      exact ⟨hx, ha, hy⟩

/-- A step finds the terms that one accepted triple leads to. -/
theorem finds_step (ts : List Triple) (accepts : Iri → Bool) (d : Direction) :
    Finds (step ts accepts d) fun x y =>
      ∃ t ∈ ts, d.startsAt t x = true ∧ accepts t.predicate = true ∧ d.target t = y := by
  intro x
  refine ⟨nodup_firsts _, fun y => ?_⟩
  rw [step, mem_firsts, List.mem_map]
  constructor
  · rintro ⟨t, ht, rfl⟩
    obtain ⟨ht, ha⟩ := List.mem_filter.1 ht
    rw [Bool.and_eq_true] at ha
    exact ⟨t, ht, ha.1, ha.2, rfl⟩
  · rintro ⟨t, ht, hs, ha, rfl⟩
    exact ⟨t, List.mem_filter.2 ⟨ht, by rw [hs, ha]; rfl⟩, rfl⟩

/-- Following each term that has been found finds the ends of two steps. -/
theorem Finds.follow {next : Term → List Term} {R S : Term → Term → Prop} {before : Term → List Term}
    (hb : Finds before R) (hn : Finds next S) :
    Finds (fun x => follow next (before x)) fun x y => ∃ z, R x z ∧ S z y := by
  intro x
  refine ⟨nodup_firsts _, fun y => ?_⟩
  simp only [Path.follow, mem_firsts, List.mem_flatMap, (hb x).2, (hn _).2]

/-- What one of two functions finds is found once. -/
theorem Finds.or {a b : Term → List Term} {R S : Term → Term → Prop} (ha : Finds a R) (hb : Finds b S) :
    Finds (fun x => firsts (a x ++ b x)) fun x y => R x y ∨ S x y := by
  intro x
  refine ⟨nodup_firsts _, fun y => ?_⟩
  rw [mem_firsts, List.mem_append, (ha x).2, (hb x).2]

/-- A closure finds what is reached in any number of steps, with or without the start. -/
theorem Finds.close {next : Term → List Term} {R : Term → Term → Prop} (hn : Finds next R)
    (hR : ∀ x y, R x y → x = y ∨ (x ∈ nodes ts ∧ y ∈ nodes ts)) (includeStart : Bool) :
    Finds (close ts next includeStart) fun x y =>
      (includeStart = true ∧ y = x) ∨ Relation.TransGen R x y := by
  have he : Follows next = R := by
    funext x y
    exact propext ((hn x).2 y)
  intro x
  have hstep : ∀ y, ∀ z ∈ next y, y = z ∨ (y ∈ nodes ts ∧ z ∈ nodes ts) :=
    fun y z hz => hR y z (((hn y).2 z).1 hz)
  obtain ⟨hnodup, hmem⟩ := mem_close (fun y => (hn y).1) hstep includeStart x
  rw [he] at hmem
  exact ⟨hnodup, hmem⟩

/-- A function that finds a relation finds every relation that is the same. -/
theorem Finds.congr {next : Term → List Term} {R S : Term → Term → Prop} (h : Finds next R)
    (hRS : ∀ x y, R x y ↔ S x y) : Finds next S :=
  fun x => ⟨(h x).1, fun y => ((h x).2 y).trans (hRS x y)⟩

/-- Terms that are related are the same or both in the graph. -/
theorem Direction.Relates.eq_or_mem {d : Direction} (h : d.Relates ts p x y) :
    x = y ∨ (x ∈ nodes ts ∧ y ∈ nodes ts) := by
  cases d with
  | forward => exact Path.Relates.eq_or_mem h
  | backward => exact (Path.Relates.eq_or_mem h).imp Eq.symm And.symm

/-- One or more steps in a direction are those of the closure of the path. -/
theorem transGen_direction (d : Direction) :
    Relation.TransGen (d.Relates ts p) x y ↔ d.Relates ts (.oneOrMore p) x y := by
  cases d with
  | forward => exact Iff.rfl
  | backward => exact Relation.transGen_swap

/-- Following a path finds the terms that it relates, in either direction. -/
theorem finds_reach (ts : List Triple) (p : Path) (d : Direction) : Finds (p.reach ts d) (d.Relates ts p) := by
  induction p generalizing d with
  | iri i =>
    refine (finds_step ts (· == i) d).congr fun x y => (exists_step_iff (· == i)).trans ?_
    rw [Direction.relates_iff]
    simp only [beq_iff_eq, Path.Relates]
  | negated is =>
    refine (finds_step ts (fun i => !is.contains i) d).congr fun x y =>
      (exists_step_iff fun i => !is.contains i).trans ?_
    rw [Direction.relates_iff]
    simp only [Bool.not_eq_true', List.contains_eq_mem, decide_eq_false_iff_not, Path.Relates]
  | inverse p ih =>
    refine (ih d.flip).congr fun x y => ?_
    cases d <;> rfl
  | sequence p q ihp ihq =>
    cases d with
    | forward => exact (ihp .forward).follow (ihq .forward)
    | backward =>
      refine ((ihq .backward).follow (ihp .backward)).congr fun x y => ?_
      simp only [Direction.Relates, Path.Relates, and_comm]
  | alternative p q ihp ihq =>
    refine ((ihp d).or (ihq d)).congr fun x y => ?_
    cases d <;> rfl
  | zeroOrMore p ih =>
    refine ((ih d).close (fun x y h => Direction.Relates.eq_or_mem h) true).congr fun x y => ?_
    rw [transGen_direction]
    cases d with
    | forward => simp [Direction.Relates, Path.Relates, Relation.reflTransGen_iff_eq_or_transGen]
    | backward =>
      simp [Direction.Relates, Path.Relates, Relation.reflTransGen_iff_eq_or_transGen, eq_comm]
  | oneOrMore p ih =>
    refine ((ih d).close (fun x y h => Direction.Relates.eq_or_mem h) false).congr fun x y => ?_
    rw [transGen_direction]
    simp
  | zeroOrOne p ih =>
    have hself : Finds (fun x => [x]) fun x y => x = y := by
      intro x
      refine ⟨by simp, fun y => ?_⟩
      rw [List.mem_singleton, eq_comm]
    refine ((ih d).or hself).congr fun x y => ?_
    cases d with
    | forward => exact Iff.rfl
    | backward => simp [Direction.Relates, Path.Relates, eq_comm]

/-- Forward, a path reaches the ends that it relates a term to. -/
theorem mem_reach_forward : y ∈ p.reach ts .forward x ↔ p.Relates ts x y := (finds_reach ts p .forward x).2 y

/-- Backward, it reaches the starts. -/
theorem mem_reach_backward : y ∈ p.reach ts .backward x ↔ p.Relates ts y x := (finds_reach ts p .backward x).2 y

/-- Pairs from some starts are those of the starts with what is found from them. -/
theorem mem_pairsFrom {next : Term → List Term} {R : Term → Term → Prop} (hn : Finds next R)
    {starts : List Term} : (x, y) ∈ pairsFrom next starts ↔ x ∈ starts ∧ R x y := by
  simp only [pairsFrom, mem_firsts, List.mem_flatMap, List.mem_map, Prod.mk.injEq]
  constructor
  · rintro ⟨a, ha, b, hb, rfl, rfl⟩
    exact ⟨ha, ((hn a).2 b).1 hb⟩
  · rintro ⟨hx, hR⟩
    exact ⟨x, hx, y, ((hn x).2 y).2 hR, rfl, rfl⟩

/-- Closed pairs from some starts are the starts with what is reached from them. -/
theorem mem_closePairs (includeStart : Bool) {starts : List Term} :
    (x, y) ∈ closePairs ts (p.reach ts .forward) includeStart starts ↔
      x ∈ starts ∧ ((includeStart = true ∧ y = x) ∨ Relation.TransGen (p.Relates ts) x y) := by
  have hc := (finds_reach ts p .forward).close (fun x y h => Direction.Relates.eq_or_mem h) includeStart
  rw [closePairs, nextIn_tabulate]
  exact mem_pairsFrom hc

/-- The pairs of the accepted triples are their subjects and objects. -/
theorem mem_pairs_filter (accepts : Triple → Bool) :
    (x, y) ∈ firsts ((ts.filter accepts).map fun t => (t.subject.toTerm, t.object)) ↔
      (∃ t ∈ ts, t.subject.toTerm = x ∧ accepts t = true ∧ t.object = y) ∧ x ∈ nodes ts := by
  rw [mem_firsts, List.mem_map]
  constructor
  · rintro ⟨t, ht, he⟩
    obtain ⟨ht, ha⟩ := List.mem_filter.1 ht
    obtain ⟨rfl, rfl⟩ := Prod.mk.inj he
    exact ⟨⟨t, ht, rfl, ha, rfl⟩, mem_nodes.2 ⟨t, ht, .inl rfl⟩⟩
  · rintro ⟨⟨t, ht, rfl, ha, rfl⟩, -⟩
    exact ⟨t, List.mem_filter.2 ⟨ht, ha⟩, rfl⟩

/-- The pairs of a path are the related terms that occur in the triples. -/
theorem mem_pairs : (x, y) ∈ p.pairs ts ↔ p.Relates ts x y ∧ x ∈ nodes ts := by
  induction p generalizing x y with
  | iri i =>
    rw [pairs, mem_pairs_filter]
    simp only [beq_iff_eq, Relates]
  | negated is =>
    rw [pairs, mem_pairs_filter]
    simp only [Bool.not_eq_true', List.contains_eq_mem, decide_eq_false_iff_not, Relates]
  | inverse p ih =>
    have hswap : (x, y) ∈ (inverse p).pairs ts ↔ (y, x) ∈ p.pairs ts := by
      simp only [pairs, List.mem_map, Prod.exists, Prod.mk.injEq]
      constructor
      · rintro ⟨a, b, h, rfl, rfl⟩
        exact h
      · exact fun h => ⟨y, x, h, rfl, rfl⟩
    rw [hswap, ih]
    exact and_congr_right fun h => Relates.mem_left_iff h
  | sequence p q ihp ihq =>
    simp only [pairs, nextIn_tabulate, mem_firsts, List.mem_flatMap, Prod.exists, List.mem_map, Prod.mk.injEq]
    constructor
    · rintro ⟨a, z, hz, b, hb, rfl, rfl⟩
      obtain ⟨hp, hx⟩ := ihp.1 hz
      exact ⟨⟨z, hp, mem_reach_forward.1 hb⟩, hx⟩
    · rintro ⟨⟨z, hp, hq⟩, hx⟩
      exact ⟨x, z, ihp.2 ⟨hp, hx⟩, y, mem_reach_forward.2 hq, rfl, rfl⟩
  | alternative p q ihp ihq =>
    rw [pairs, mem_firsts, List.mem_append, ihp, ihq, ← or_and_right]
    rfl
  | zeroOrMore p _ =>
    rw [pairs, mem_closePairs, and_comm]
    simp [Relates, Relation.reflTransGen_iff_eq_or_transGen]
  | oneOrMore p ih =>
    rw [pairs, mem_closePairs, mem_firsts, List.mem_map]
    simp only [Bool.false_eq_true, false_and, false_or, Prod.exists, exists_and_right, exists_eq_right]
    constructor
    · rintro ⟨⟨z, hz⟩, h⟩
      exact ⟨h, (ih.1 hz).2⟩
    · rintro ⟨h, hx⟩
      obtain ⟨z, hz, -⟩ := Relation.TransGen.head'_iff.1 h
      exact ⟨⟨z, ih.2 ⟨hz, hx⟩⟩, h⟩
  | zeroOrOne p _ =>
    rw [pairs, mem_pairsFrom (finds_reach ts (.zeroOrOne p) .forward), and_comm]
    rfl

/-- Each pair comes once. -/
theorem nodup_pairs (ts : List Triple) (p : Path) : (p.pairs ts).Nodup := by
  induction p with
  | iri i => exact nodup_firsts _
  | negated is => exact nodup_firsts _
  | inverse p ih =>
    refine ih.map fun a b h => ?_
    simpa [Prod.ext_iff, and_comm] using h
  | sequence p q _ _ => exact nodup_firsts _
  | alternative p q _ _ => exact nodup_firsts _
  | zeroOrMore p _ => exact nodup_firsts _
  | oneOrMore p _ => exact nodup_firsts _
  | zeroOrOne p _ => exact nodup_firsts _

end Path

end SparqlAlgebra

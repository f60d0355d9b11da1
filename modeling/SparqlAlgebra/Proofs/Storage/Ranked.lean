import SparqlAlgebra.Proofs.Number.Compare
import SparqlAlgebra.Proofs.Plan.RowsSearched
import SparqlAlgebra.Proofs.Plan.Sorted

/-!
# Ranked searches

A search with bounds on the rank has the hits of the same search without them, sorted by descending relevance, numbered
from zero and cut down to the bounds. Hits of the same relevance stay in the order in which they are found. All
relevances are positive, so that the total order by which they are sorted is that of the numbers, and the ranks that are
left are consecutive.
-/

namespace SparqlAlgebra

open Stage

/-! ## Positive numbers -/

namespace Binary

variable {fmt : BinaryFormat}

/-- What a number is sorted by: its class, its exact value and its sign. -/
def totalPlace (x : Binary fmt) : ℕ ×ₗ ℚ ×ₗ ℕ := toLex (x.totalRank, toLex (x.finiteValue, x.signRank))

/-- The total order of floating-point numbers is the order of places. -/
theorem totalCompare_eq_compareOn : (totalCompare : Binary fmt → Binary fmt → Ordering) = compareOn totalPlace := by
  funext x y
  rw [totalCompare_eq, compareOn, totalPlace, totalPlace, compare_toLex, compare_toLex]

/-- The total order of floating-point numbers is transitive. -/
instance : Std.TransCmp (totalCompare : Binary fmt → Binary fmt → Ordering) := by
  rw [totalCompare_eq_compareOn]
  infer_instance

/-- A positive number is infinite or has a positive value. -/
theorem eq_of_pos {x : Binary fmt} (h : (ofInt 0 : Binary fmt).lt x = true) :
    x = .infinite false ∨ ∃ s m e, x = .finite s m e ∧ 0 < rational s m e := by
  have hzero : (ofInt 0 : Binary fmt) = .finite false 0 fmt.minExp := rfl
  rw [hzero, lt, beq_iff_eq] at h
  cases x with
  | nan s => cases h
  | infinite s =>
    cases s with
    | false => exact .inl rfl
    | true => cases h
  | finite s m e =>
    have hvalue : rational false 0 fmt.minExp = 0 := by simp [rational]
    rw [compare?_finite, hvalue, Option.some.injEq, compare_lt_iff_lt] at h
    exact .inr ⟨s, m, e, rfl, h⟩

/-- Positive numbers are in the same order among all values as among the numbers. -/
theorem compare?_eq_totalCompare {x y : Binary fmt} (hx : (ofInt 0 : Binary fmt).lt x = true)
    (hy : (ofInt 0 : Binary fmt).lt y = true) : compare? x y = some (totalCompare x y) := by
  obtain rfl | ⟨s, m, e, rfl, hpos⟩ := eq_of_pos hx
  · obtain rfl | ⟨t, n, f, rfl, -⟩ := eq_of_pos hy <;> rfl
  · obtain rfl | ⟨t, n, f, rfl, -⟩ := eq_of_pos hy
    · rfl
    · rw [compare?_finite, Option.some.injEq]
      by_cases hvalue : rational s m e = rational t n f
      · rw [totalCompare_of_rational_eq hvalue hpos.ne', compare_eq_iff_eq.2 hvalue]
      · rw [totalCompare, compareFinite_eq]
        cases h : compare (rational s m e) (rational t n f) with
        | eq => exact absurd (compare_eq_iff_eq.1 h) hvalue
        | lt => rfl
        | gt => rfl

end Binary

/-! ## Ranks within bounds -/

namespace Search

variable {q : Search} {place : SearchPlace} {P : Store → Prop} {r : GraphRef}

/-- A rank is accepted if it lies between the bounds that are given. -/
theorem acceptsRank_iff {n : Nat} :
    q.acceptsRank n = true ↔ (∀ m ∈ q.minRank, m ≤ n) ∧ ∀ m ∈ q.maxRank, n ≤ m := by
  rw [acceptsRank, Bool.and_eq_true]
  refine and_congr ?_ ?_
  · cases q.minRank <;> simp
  · cases q.maxRank <;> simp

/-- Where the ranks end that are accepted of so many. -/
def rankEnd (q : Search) (n : Nat) : Nat := q.maxRank.elim n fun m => min n (m + 1)

/-- The ranks within the bounds follow each other from the lower bound on. -/
theorem filter_acceptsRank (q : Search) (n : Nat) :
    (List.range n).filter q.acceptsRank = List.range' (q.minRank.getD 0) (q.rankEnd n - q.minRank.getD 0) := by
  have haccepts : ∀ i, q.acceptsRank i = true ↔ q.minRank.getD 0 ≤ i ∧ i < q.rankEnd (i + 1) := by
    intro i
    rw [acceptsRank_iff, rankEnd]
    refine and_congr ?_ ?_
    · cases q.minRank <;> simp
    · cases q.maxRank with
      | none => simp
      | some m =>
        simp only [Option.mem_def, Option.some.injEq, forall_eq', Option.elim_some]
        omega
  have hgrows : ∀ i, q.rankEnd i ≤ i ∧ (i < q.rankEnd (i + 1) → q.rankEnd i = i ∧ q.rankEnd (i + 1) = i + 1) ∧
      (q.rankEnd (i + 1) ≤ i → q.rankEnd (i + 1) = q.rankEnd i) := by
    intro i
    unfold rankEnd
    cases q.maxRank with
    | none => simp
    | some m =>
      simp only [Option.elim_some]
      omega
  induction n with
  | zero =>
    have hzero : q.rankEnd 0 - q.minRank.getD 0 = 0 := by
      have hle := (hgrows 0).1
      omega
    rw [hzero]
    rfl
  | succ n ih =>
    obtain ⟨hle, hnext, hlast⟩ := hgrows n
    rw [List.range_succ, List.filter_append, ih]
    by_cases h : q.acceptsRank n = true
    · obtain ⟨hlow, hhigh⟩ := (haccepts n).1 h
      obtain ⟨hend, hend'⟩ := hnext hhigh
      have hlength : n + 1 - q.minRank.getD 0 = n - q.minRank.getD 0 + 1 := by omega
      have hrank : q.minRank.getD 0 + (n - q.minRank.getD 0) = n := by omega
      rw [List.filter_cons_of_pos h, List.filter_nil, hend, hend', hlength, List.range'_concat, one_mul, hrank]
    · have hsame : q.rankEnd (n + 1) - q.minRank.getD 0 = q.rankEnd n - q.minRank.getD 0 := by
        rw [haccepts, not_and_or] at h
        omega
      rw [List.filter_cons_of_neg h, List.filter_nil, List.append_nil, hsame]

/-! ## Slices of the sorted hits -/

/-- The search without bounds on the rank. -/
def unranked (q : Search) : Search := { q with minRank := none, maxRank := none }

/-- A search without bounds on rank is its own unranked search. -/
theorem unranked_eq_self (h : q.isRanked = false) : q.unranked = q := by
  rw [isRanked, Bool.or_eq_false_iff, Option.isSome_eq_false_iff, Option.isSome_eq_false_iff, Option.isNone_iff_eq_none,
    Option.isNone_iff_eq_none] at h
  cases q
  obtain ⟨rfl, rfl⟩ := h
  rfl

/-- Without bounds on the rank there is less that can be wrong. -/
theorem fault?_unranked (h : q.fault? = none) : q.unranked.fault? = none := by
  obtain ⟨hkeywords, hrelevance, -, hplace⟩ := fault?_eq_none_iff.1 h
  exact fault?_eq_none_iff.2 ⟨hkeywords, hrelevance, rfl, hplace⟩

/-- The hits of a search in a graph, if it has no fault. -/
def collected (q : Search) (g : Engine) (r : GraphRef) (st : Store) : Except QueryError (List Hit) :=
  q.run g r >>= fun stage => (stage.collect st).1

/-- One hit goes before another one if it is more relevant, or as relevant and found earlier. -/
def Before (a b : Hit × Nat) : Prop :=
  b.1.relevance.lt a.1.relevance = true ∨ a.1.relevance.compare? b.1.relevance = some .eq ∧ a.2 < b.2

/-- The order by descending relevance. -/
def compareRelevance (h k : Hit) : Ordering := Double.order k.relevance h.relevance

/-- Relevances are ordered transitively. -/
instance : Std.TransCmp compareRelevance where
  eq_swap := by
    intro h k
    rw [compareRelevance, compareRelevance, Double.order, Double.order]
    exact Std.OrientedCmp.eq_swap
  isLE_trans := by
    intro h k l hhk hkl
    rw [compareRelevance, Double.order] at *
    exact Std.TransCmp.isLE_trans hkl hhk

/-- Whether a hit is at least as relevant as another one. -/
def mayPrecede (h k : Hit) : Bool := compareRelevance h k != .gt

/-- The order of hits is transitive. -/
theorem mayPrecede_trans (h k l : Hit) (hhk : mayPrecede h k = true) (hkl : mayPrecede k l = true) :
    mayPrecede h l = true := ne_gt_trans h k l hhk hkl

/-- Of two hits one may precede the other. -/
theorem mayPrecede_total (h k : Hit) : (mayPrecede h k || mayPrecede k h) = true := ne_gt_total h k

/-- Every hit is relevant. -/
theorem pos_of_score? {t : Triple} {h : Hit} (hscore : q.score? place t = some h) :
    (Binary.ofInt 0 : Double).lt h.relevance = true ∧ h.rank = -1 := by
  obtain ⟨text, -, hhit⟩ := Option.bind_eq_some_iff.1 hscore
  dsimp only at hhit
  rw [Option.ite_none_right_eq_some] at hhit
  obtain ⟨haccepts, hhit⟩ := hhit
  obtain rfl := Option.some.inj hhit
  rw [acceptsRelevance, Bool.and_eq_true, Bool.and_eq_true] at haccepts
  exact ⟨haccepts.1.1, rfl⟩

/-- Relevant hits are sorted stably. -/
theorem exists_placed_relevance {hits : List Hit} (hpos : ∀ h ∈ hits, (Binary.ofInt 0 : Double).lt h.relevance = true) :
    ∃ placed : List (Hit × Nat), placed.Perm hits.zipIdx ∧
      placed.map Prod.fst = hits.mergeSort mayPrecede ∧ placed.Pairwise Before := by
  obtain ⟨placed, hperm, hsorted, hpairs⟩ := exists_placed mayPrecede_trans mayPrecede_total hits
  have hplaced : ∀ x ∈ placed, (Binary.ofInt 0 : Double).lt x.1.relevance = true := fun x hx =>
    hpos _ (List.fst_mem_of_mem_zipIdx (hperm.mem_iff.1 hx))
  refine ⟨placed, hperm, hsorted, hpairs.imp_of_mem fun {x y} hx hy hxy => ?_⟩
  obtain ⟨hle, htie⟩ := hxy
  have hswap : compareRelevance y.1 x.1 = (compareRelevance x.1 y.1).swap := Std.OrientedCmp.eq_swap
  have hcompare : y.1.relevance.compare? x.1.relevance = some (compareRelevance x.1 y.1) :=
    Binary.compare?_eq_totalCompare (hplaced y hy) (hplaced x hx)
  rw [mayPrecede] at hle htie
  rw [hswap] at htie
  cases ho : compareRelevance x.1 y.1 with
  | lt =>
    rw [ho] at hcompare
    exact .inl (beq_iff_eq.2 hcompare)
  | eq =>
    rw [ho] at hcompare htie
    exact .inr ⟨Binary.compare?_swap_of_eq hcompare, htie rfl⟩
  | gt =>
    rw [ho] at hle
    cases hle

/-- Ranking sorts the hits by relevance, numbers them and keeps those within the bounds. -/
theorem rankHits_eq (q : Search) (hits : List Hit) :
    q.rankHits hits =
      ((hits.mergeSort mayPrecede).zipIdx.filter fun x => q.acceptsRank x.2).map (fun x => { x.1 with rank := x.2 }) :=
  rfl

/-- What is kept has consecutive ranks. -/
theorem map_rank_rankHits (q : Search) (hits : List Hit) :
    (q.rankHits hits).map Hit.rank =
      (List.range' (q.minRank.getD 0) (q.rankHits hits).length).map Int.ofNat := by
  have hranks : ∀ sorted : List Hit, (sorted.zipIdx.filter fun x => q.acceptsRank x.2).map Prod.snd =
      List.range' (q.minRank.getD 0) (q.rankEnd sorted.length - q.minRank.getD 0) := by
    intro sorted
    rw [← filter_acceptsRank, List.range_eq_range', ← List.zipIdx_map_snd 0 sorted, List.filter_map]
    rfl
  have hlength := congrArg List.length (hranks (hits.mergeSort mayPrecede))
  rw [List.length_map, List.length_range'] at hlength
  rw [rankHits_eq, List.length_map, hlength, ← hranks, List.map_map, List.map_map]
  rfl

/-- Without bounds on the rank no hit has a rank. With them, the hits are those that the search has without them, moved
so that one goes before another one if it is more relevant, or as relevant and found earlier, then numbered from zero
and cut down to the bounds. -/
theorem ranked_slices_sorted {q : Search} (hvalid : q.validate = .ok ()) (g : Engine) (r : GraphRef) (st : Store) :
    ∃ (all : List Hit) (placed : List (Hit × Nat)),
      q.unranked.collected g r st = .ok all ∧ (∀ h ∈ all, h.rank = -1) ∧
      placed.Perm all.zipIdx ∧ placed.Pairwise Before ∧
      (q.isRanked = false → q.collected g r st = .ok all) ∧
      (q.isRanked = true → ∃ hits, q.collected g r st = .ok hits ∧
        hits = ((placed.map Prod.fst).zipIdx.filter fun x =>
          (∀ n ∈ q.minRank, n ≤ x.2) ∧ ∀ n ∈ q.maxRank, x.2 ≤ n).map (fun x => { x.1 with rank := x.2 }) ∧
        hits.map Hit.rank = (List.range' (q.minRank.getD 0) hits.length).map Int.ofNat) := by
  have hfault : q.fault? = none := by
    unfold validate at hvalid
    split at hvalid
    · cases hvalid
    · assumption
  obtain ⟨-, -, -, place, hplace⟩ := fault?_eq_none_iff.1 hfault
  have hsame : ∀ s, s = st → s.dataset = st.dataset := fun s hs => by rw [hs]
  obtain ⟨found, hfound, -⟩ := r.yields_find hsame g q.pattern
  have hunranked : q.unranked.collected g r st = .ok (found.filterMap (q.score? place)) := by
    obtain ⟨t, -, hcollect⟩ := (g.yields_filterMap (q.score? place) hfound).collect rfl
    have hrun : q.unranked.run g r = .ok (g.filterMap (q.score? place) (r.find g q.pattern)) := by
      have hplace' : q.unranked.place? = some place := hplace
      unfold run
      simp only [fault?_unranked hfault, hplace']
      rfl
    rw [collected, hrun]
    exact congrArg Prod.fst hcollect
  have hhits : ∀ h ∈ found.filterMap (q.score? place), (Binary.ofInt 0 : Double).lt h.relevance = true ∧ h.rank = -1 := by
    intro h hh
    obtain ⟨t, -, hscore⟩ := List.mem_filterMap.1 hh
    exact pos_of_score? hscore
  obtain ⟨placed, hperm, hsorted, hpairs⟩ := exists_placed_relevance fun h hh => (hhits h hh).1
  refine ⟨_, placed, hunranked, fun h hh => (hhits h hh).2, hperm, hpairs, fun hq => ?_, fun hq => ?_⟩
  · rw [← unranked_eq_self hq]
    exact hunranked
  · obtain ⟨stage, hrun, hstage⟩ := yields_run g hfault hplace hq hfound
    obtain ⟨t, -, hcollect⟩ := hstage.collect rfl
    refine ⟨q.rankHits (found.filterMap (q.score? place)), ?_, ?_, map_rank_rankHits q _⟩
    · rw [collected, hrun]
      exact congrArg Prod.fst hcollect
    · rw [rankHits_eq, hsorted]
      exact congrArg _ (List.filter_congr fun x _ => Bool.eq_iff_iff.2 (acceptsRank_iff.trans decide_eq_true_iff.symm))

/-- Two of three texts with a keyword share their relevance, and the lower bound leaves out the most relevant one. -/
theorem ranked_slices_sorted_cats :
    let label : Iri := ⟨"http://example.com/label"⟩
    let a : Triple := ⟨.iri ⟨"http://example.com/a"⟩, label, .literal (.string "cat dog")⟩
    let b : Triple := ⟨.iri ⟨"http://example.com/b"⟩, label, .literal (.string "cat")⟩
    let d : Triple := ⟨.iri ⟨"http://example.com/d"⟩, label, .literal (.string "bird cat")⟩
    let e : Triple := ⟨.iri ⟨"http://example.com/e"⟩, label, .literal (.string "bird")⟩
    let st : Store :=
      ⟨⟨(Graph.empty defaultGraphIri ⟨true, true⟩).insertAll [a, b, d, e], [], fun _ => ⟨true, true⟩⟩, none, 0⟩
    let q : Search := ⟨⟨.var ⟨"s"⟩, .iri label, .var ⟨"o"⟩⟩, ⟨"o"⟩, ["cat"], false, none, none, some 1, none⟩
    q.validate = .ok () ∧ q.isRanked = true ∧
      q.unranked.collected .streaming (.single .default) st =
        .ok [⟨a, Binary.round false 1 2, -1⟩, ⟨b, Binary.ofInt 1, -1⟩, ⟨d, Binary.round false 1 2, -1⟩] ∧
      ∃ hits, q.collected .streaming (.single .default) st = .ok hits ∧ hits.map Hit.rank = [1, 2] := by
  intro label a b d e st q
  have hvalid : q.validate = .ok () := by decide +kernel
  have hfound : q.unranked.collected .streaming (.single .default) st =
      .ok [⟨a, Binary.round false 1 2, -1⟩, ⟨b, Binary.ofInt 1, -1⟩, ⟨d, Binary.round false 1 2, -1⟩] := by
    decide +kernel
  obtain ⟨all, placed, hall, -, hperm, -, -, hranked⟩ := ranked_slices_sorted hvalid .streaming (.single .default) st
  obtain ⟨hits, hhits, hslice, -⟩ := hranked rfl
  obtain rfl := Except.ok.inj (hfound.symm.trans hall)
  obtain ⟨x, y, z, rfl⟩ := List.length_eq_three.1 hperm.length_eq
  exact ⟨hvalid, rfl, hfound, hits, hhits, by rw [hslice]; rfl⟩

end Search

end SparqlAlgebra

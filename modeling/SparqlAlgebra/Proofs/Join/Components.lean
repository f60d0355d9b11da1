import Mathlib.Combinatorics.SimpleGraph.Connectivity.Connected
import Mathlib.Order.Interval.Set.OrdConnected
import SparqlAlgebra.Proofs.Join.Order

/-!
# Connected patterns stay together

The places of a list of patterns are the vertices of a graph in which two places are adjacent if their patterns share a
variable. The structural order begins no other component of this graph before the one that it is in has come to its end:
an edge over a place leads to a pattern that may follow there, so what does follow there is connected as well.
-/

namespace SparqlAlgebra

namespace TriplePattern

variable {ps qs : List TriplePattern} {p q : TriplePattern}

/-- Some variable occurs in both patterns. -/
def SharesVariable (p q : TriplePattern) : Prop := ∃ v ∈ p.vars, v ∈ q.vars

/-- It does not matter which of two patterns that share a variable comes first. -/
theorem SharesVariable.symm (h : p.SharesVariable q) : q.SharesVariable p := by
  obtain ⟨v, hp, hq⟩ := h
  exact ⟨v, hq, hp⟩

/-- The graph of a list of patterns: two places are adjacent if their patterns share a variable. -/
def sharing (ps : List TriplePattern) : SimpleGraph (Fin ps.length) where
  Adj i j := i ≠ j ∧ ps[i].SharesVariable ps[j]
  symm := ⟨fun _ _ h => ⟨h.1.symm, h.2.symm⟩⟩
  loopless := ⟨fun _ h => h.1 rfl⟩

/-- The pattern at one place shares a variable with one of those before another place. -/
def JoinsBefore (qs : List TriplePattern) (k l : Fin qs.length) : Prop := ∃ j < k, qs[j].SharesVariable qs[l]

/-! ## Lists of chosen patterns -/

/-- At each place stands a pattern that was chosen from all that stand there and behind it. -/
def Greedy (qs : List TriplePattern) : Prop :=
  ∀ k : Fin qs.length, Chosen ((qs.take k).flatMap vars) qs[k] (qs.drop k)

/-- The structural order takes in each step one of the cheapest patterns among those that may come next. -/
theorem greedy_structuralOrder (ps : List TriplePattern) : Greedy (structuralOrder ps) := by
  intro k
  have hdrop : (structuralOrder ps).drop k = (structuralOrder ps)[k] :: (structuralOrder ps).drop (k + 1) :=
    List.drop_eq_getElem_cons k.2
  have hsplit : orderFrom ps.length [] ps =
      (structuralOrder ps).take k ++ (structuralOrder ps)[k] :: (structuralOrder ps).drop (k + 1) := by
    rw [← hdrop, List.take_append_drop]
    rfl
  rw [hdrop]
  exact chosen_of_orderFrom rfl hsplit

/-- A pattern touches the variables of the first ones if it joins one of them. -/
theorem touches_take_iff {k l : Fin qs.length} : qs[l].Touches ((qs.take k).flatMap vars) ↔ JoinsBefore qs k l := by
  simp only [Touches, List.mem_flatMap, List.mem_take_iff_getElem]
  constructor
  · rintro ⟨v, hl, _, ⟨j, hj, rfl⟩, hv⟩
    have hjk := lt_min_iff.1 hj
    exact ⟨⟨j, hjk.2⟩, hjk.1, v, hv, hl⟩
  · rintro ⟨j, hjk, v, hj, hl⟩
    exact ⟨v, hl, _, ⟨j, lt_min hjk j.2, rfl⟩, hj⟩

section Places

variable {i j k l : Fin qs.length}

/-- Patterns that come later are among those left. -/
theorem getElem_mem_drop (h : k ≤ l) : qs[l] ∈ qs.drop k :=
  List.mem_drop_iff_getElem.2 ⟨l - k, by omega, by simp [Nat.add_sub_cancel' h]⟩

/-- Where some pattern that is left shares a variable with one before, the next one does so as well, and it is the
cheapest of these. -/
theorem Greedy.joinsBefore (h : Greedy qs) (hkl : k ≤ l) (hl : JoinsBefore qs k l) :
    JoinsBefore qs k k ∧ qs[k].cost ≤ qs[l].cost := by
  obtain ⟨hk, hle⟩ := (h k).connected _ (getElem_mem_drop hkl) (touches_take_iff.2 hl)
  exact ⟨touches_take_iff.1 hk, hle⟩

/-- A pattern that shares no variable with one before is the cheapest of all that are left. -/
theorem Greedy.cost_le (h : Greedy qs) (hk : ¬ JoinsBefore qs k k) (hkl : k ≤ l) : qs[k].cost ≤ qs[l].cost :=
  (h k).cheapest (mt touches_take_iff.1 hk) _ (getElem_mem_drop hkl)

/-- A way over a place needs an edge over it. -/
theorem exists_joinsBefore (h : (sharing qs).Reachable i k) (hij : i < j) (hjk : j ≤ k) :
    ∃ l, j ≤ l ∧ JoinsBefore qs j l := by
  obtain ⟨walk⟩ := h
  obtain ⟨d, -, hfst, hsnd⟩ := walk.exists_boundary_dart {x | x < j} hij (not_lt.2 hjk)
  exact ⟨d.snd, not_lt.1 hsnd, d.fst, hfst, d.adj.2⟩

/-- All that stands between two places of a component belongs to it. The induction is on the place between: what stands
there shares a variable with an earlier place, which may stand before the two; then the first of the two is between. -/
theorem Greedy.reachable (h : Greedy qs) (hr : (sharing qs).Reachable i k) (hij : i ≤ j) (hjk : j ≤ k) :
    (sharing qs).Reachable i j := by
  induction j using WellFoundedLT.induction generalizing i k with
  | ind j ih =>
    rcases hij.eq_or_lt with rfl | hij
    · exact .refl i
    obtain ⟨l, hjl, hl⟩ := exists_joinsBefore hr hij hjk
    obtain ⟨⟨a, haj, ha⟩, -⟩ := h.joinsBefore hjl hl
    have hadj : (sharing qs).Adj a j := ⟨haj.ne, ha⟩
    rcases le_or_gt i a with hia | hai
    · exact (ih a haj hr hia (haj.le.trans hjk)).trans hadj.reachable
    · exact (ih i hij hadj.reachable hai.le hij.le).symm.trans hadj.reachable

end Places

/-! ## The structural order -/

/-- Lists with the same patterns at places that correspond have the same graph. -/
def sharingIso (place : Fin ps.length ≃ Fin qs.length) (h : ∀ i, qs[place i] = ps[i]) : sharing ps ≃g sharing qs where
  toEquiv := place
  map_rel_iff' := by
    intro i j
    simp only [sharing, h, ne_eq, EmbeddingLike.apply_eq_iff_eq]

/-- The structural order comes to an end and places every pattern. Each connected component of the patterns takes
consecutive places, and each pattern but the first of its component shares a variable with one before it. As long as
some pattern that is left does so, the next one is the cheapest of these; otherwise it is the cheapest of all. -/
theorem structuralOrder_keeps_components (ps : List TriplePattern) :
    (∀ rounds, ps.length ≤ rounds → orderFrom rounds [] ps = structuralOrder ps) ∧
    ∃ place : Fin ps.length ≃ Fin (structuralOrder ps).length, (∀ i, (structuralOrder ps)[place i] = ps[i]) ∧
      (∀ c : (sharing ps).ConnectedComponent, (place '' c.supp).OrdConnected) ∧
      (∀ i j, (sharing ps).Reachable i j → place i < place j → JoinsBefore (structuralOrder ps) (place j) (place j)) ∧
      ∀ k l, k ≤ l →
        (JoinsBefore (structuralOrder ps) k l →
          JoinsBefore (structuralOrder ps) k k ∧ (structuralOrder ps)[k].cost ≤ (structuralOrder ps)[l].cost) ∧
        (¬ JoinsBefore (structuralOrder ps) k k → (structuralOrder ps)[k].cost ≤ (structuralOrder ps)[l].cost) := by
  have hgreedy := greedy_structuralOrder ps
  have hperm := (structuralOrder_perm ps).symm
  let place := Equiv.ofBijective hperm.idxBij ⟨hperm.idxBij_injective, hperm.idxBij_surjective⟩
  have hplace : ∀ i, (structuralOrder ps)[place i] = ps[i] := hperm.getElem_idxBij_eq_getElem
  have hreach : ∀ {i j}, (sharing (structuralOrder ps)).Reachable (place i) (place j) ↔ (sharing ps).Reachable i j :=
    SimpleGraph.Iso.reachable_iff (φ := sharingIso place hplace)
  refine ⟨fun rounds => orderFrom_of_length_le [], place, hplace, fun c => ⟨?_⟩, fun i j hr hij => ?_, ?_⟩
  · rintro _ ⟨i, hi, rfl⟩ _ ⟨k, hk, rfl⟩ m ⟨him, hmk⟩
    obtain ⟨j, rfl⟩ := place.surjective m
    have hik : (sharing ps).Reachable i k := SimpleGraph.ConnectedComponent.exact (hi.trans hk.symm)
    have hij := hreach.1 (hgreedy.reachable (hreach.2 hik) him hmk)
    exact ⟨j, (SimpleGraph.ConnectedComponent.sound hij).symm.trans hi, rfl⟩
  · obtain ⟨l, hjl, hl⟩ := exists_joinsBefore (hreach.2 hr) hij le_rfl
    exact (hgreedy.joinsBefore hjl hl).1
  · exact fun k l hkl => ⟨hgreedy.joinsBefore hkl, fun hk => hgreedy.cost_le hk hkl⟩

/-- Two components, one of them with a pattern that occurs twice. -/
example :
    let var (name : String) : Slot := .var ⟨name⟩
    let iri (name : String) : IriSlot := .iri ⟨name⟩
    let typed : TriplePattern := ⟨var "s", iri "type", .term (.iri ⟨"Person"⟩)⟩
    let named : TriplePattern := ⟨var "s", iri "name", var "n"⟩
    let any : TriplePattern := ⟨var "a", .var ⟨"p"⟩, var "b"⟩
    structuralOrder [named, any, typed, named] = [typed, named, named, any] := by
  decide

end TriplePattern

end SparqlAlgebra

import Mathlib.Data.List.Perm.Basic
import SparqlAlgebra.Join.Bgp

/-!
# The order of joins

Both ways of ordering the patterns of a basic graph pattern rearrange them and lose none. The structural order chooses
in each round a pattern of least cost among those that share a variable with the ones before, if there is any. Estimates
are to be had wherever a graph says that it can estimate.
-/

namespace SparqlAlgebra

variable {ps qs : List TriplePattern} {d : Dataset} {r : GraphRef} {p : TriplePattern}

namespace TriplePattern

/-! ## The cheapest pattern -/

section Cheapest

variable {c : TriplePattern → Bool} {xs : List (TriplePattern × Nat)} {best : Option (Nat × Nat)} {i : Nat}

/-- What a scan for the cheapest pattern keeps of one more pattern. -/
def cheaper (c : TriplePattern → Bool) (best : Option (Nat × Nat)) (x : TriplePattern × Nat) :
    Option (Nat × Nat) :=
  if c x.1 then
    match best with
    | some (k, i) => if x.1.cost < k then some (x.1.cost, x.2) else some (k, i)
    | none => some (x.1.cost, x.2)
  else best

/-- The cheapest pattern is found in one scan. -/
theorem cheapest_eq (c : TriplePattern → Bool) (ps : List TriplePattern) :
    cheapest c ps = (ps.zipIdx.foldl (cheaper c) none).map (·.2) := rfl

/-- What a scan has found: a pattern of the least cost among those that satisfy the condition, or that there is none. -/
inductive Scanned (c : TriplePattern → Bool) (xs : List (TriplePattern × Nat)) : Option (Nat × Nat) → Prop
  | missing : (∀ y ∈ xs, c y.1 = false) → Scanned c xs none
  | found {x : TriplePattern × Nat} : x ∈ xs → c x.1 = true → (∀ y ∈ xs, c y.1 = true → x.1.cost ≤ y.1.cost) →
      Scanned c xs (some (x.1.cost, x.2))

/-- What is best among some patterns is compared with one more. -/
theorem Scanned.cheaper (h : Scanned c xs best) (x : TriplePattern × Nat) :
    Scanned c (xs ++ [x]) (cheaper c best x) := by
  have hx : x ∈ xs ++ [x] := List.mem_append_right xs (List.mem_singleton_self x)
  unfold TriplePattern.cheaper
  split
  case isTrue hc =>
    cases h with
    | missing hnone =>
      refine .found hx hc (List.forall_mem_append.2 ⟨fun y hy hcy => ?_, List.forall_mem_singleton.2 fun _ => ?_⟩)
      · rw [hnone y hy] at hcy
        cases hcy
      · exact Nat.le_refl _
    | found hz hcz hle =>
      dsimp only
      split
      case isTrue hlt =>
        refine .found hx hc (List.forall_mem_append.2 ⟨fun y hy hcy => ?_, List.forall_mem_singleton.2 fun _ => ?_⟩)
        · exact Nat.le_trans (Nat.le_of_lt hlt) (hle y hy hcy)
        · exact Nat.le_refl _
      case isFalse hlt =>
        refine .found (List.mem_append_left _ hz) hcz (List.forall_mem_append.2 ⟨hle, ?_⟩)
        exact List.forall_mem_singleton.2 fun _ => Nat.le_of_not_lt hlt
  case isFalse hc =>
    rw [Bool.not_eq_true] at hc
    cases h with
    | missing hnone => exact .missing (List.forall_mem_append.2 ⟨hnone, List.forall_mem_singleton.2 hc⟩)
    | found hz hcz hle =>
      refine .found (List.mem_append_left _ hz) hcz (List.forall_mem_append.2 ⟨hle, ?_⟩)
      exact List.forall_mem_singleton.2 fun hx => absurd hx (by rw [hc]; exact Bool.false_ne_true)

/-- What is best among some patterns is compared with several more. -/
theorem Scanned.foldl (h : Scanned c xs best) (ys : List (TriplePattern × Nat)) :
    Scanned c (xs ++ ys) (ys.foldl (TriplePattern.cheaper c) best) := by
  induction ys generalizing xs best with
  | nil => rwa [List.append_nil]
  | cons y ys ih =>
    rw [List.append_cons]
    exact ih (h.cheaper y)

/-- After the scan the best pattern is known. -/
theorem scanned_zipIdx (c : TriplePattern → Bool) (ps : List TriplePattern) :
    Scanned c ps.zipIdx (ps.zipIdx.foldl (TriplePattern.cheaper c) none) :=
  Scanned.foldl (.missing (List.forall_mem_nil _)) ps.zipIdx

/-- The cheapest pattern satisfies the condition, and none that does is cheaper. -/
theorem exists_of_cheapest (h : cheapest c ps = some i) :
    ∃ p, ps[i]? = some p ∧ c p = true ∧ ∀ q ∈ ps, c q = true → p.cost ≤ q.cost := by
  rw [cheapest_eq, Option.map_eq_some_iff] at h
  obtain ⟨b, hb, rfl⟩ := h
  have hscan := scanned_zipIdx c ps
  rw [hb] at hscan
  cases hscan with
  | found hx hc hle =>
    refine ⟨_, List.mem_zipIdx_iff_getElem?.1 hx, hc, fun q hq hcq => ?_⟩
    obtain ⟨j, hj⟩ := List.mem_iff_getElem?.1 hq
    exact hle (q, j) (List.mem_zipIdx_iff_getElem?.2 hj) hcq

/-- If there is no cheapest pattern, none is acceptable. -/
theorem cheapest_eq_none (h : cheapest c ps = none) : ∀ p ∈ ps, c p = false := by
  rw [cheapest_eq, Option.map_eq_none_iff] at h
  have hscan := scanned_zipIdx c ps
  rw [h] at hscan
  cases hscan with
  | missing hnone =>
    intro p hp
    obtain ⟨j, hj⟩ := List.mem_iff_getElem?.1 hp
    exact hnone (p, j) (List.mem_zipIdx_iff_getElem?.2 hj)

end Cheapest

/-! ## The structural order -/

section Structural

variable {used : List Variable} {rest : List TriplePattern} {fuel : Nat}

/-- A pattern has one of the variables. -/
def Touches (used : List Variable) (p : TriplePattern) : Prop := ∃ v ∈ p.vars, v ∈ used

/-- A pattern touches some variables if it has one of them. -/
theorem any_contains_iff : p.vars.any used.contains = true ↔ p.Touches used := by
  simp only [List.any_eq_true, List.contains_iff_mem, Touches]

/-- What is chosen from a list of patterns: one of least cost among those that have one of the variables used so far, or
among all if there is none. -/
structure Chosen (used : List Variable) (p : TriplePattern) (ps : List TriplePattern) : Prop where
  /-- If any pattern has a variable used so far, the chosen one does, and it costs least among those. -/
  connected : ∀ q ∈ ps, q.Touches used → p.Touches used ∧ p.cost ≤ q.cost
  /-- If none has, the chosen one costs least among all. -/
  cheapest : ¬ p.Touches used → ∀ q ∈ ps, p.cost ≤ q.cost

/-- Whether a pattern may come next does not depend on the order of the others. -/
theorem Chosen.of_perm (h : Chosen used p ps) (hp : qs.Perm ps) : Chosen used p qs :=
  ⟨fun q hq => h.connected q (hp.mem_iff.1 hq), fun hn q hq => h.cheapest hn q (hp.mem_iff.1 hq)⟩

/-- There is a next pattern as long as some are left. -/
theorem exists_chosen (used : List Variable) (hps : ps ≠ []) :
    ∃ i p, (cheapest (fun p => p.vars.any used.contains) ps).or (cheapest (fun _ => true) ps) = some i ∧
      ps[i]? = some p ∧ Chosen used p ps := by
  cases hc : cheapest (fun p => p.vars.any used.contains) ps with
  | some i =>
    obtain ⟨p, hp, htouches, hle⟩ := exists_of_cheapest hc
    rw [any_contains_iff] at htouches
    exact ⟨i, p, Option.some_or, hp, fun q hq hq' => ⟨htouches, hle q hq (any_contains_iff.2 hq')⟩, absurd htouches⟩
  | none =>
    have hnone : ∀ q ∈ ps, ¬ q.Touches used := by
      intro q hq hq'
      have hf := cheapest_eq_none hc q hq
      rw [any_contains_iff.2 hq'] at hf
      cases hf
    cases hall : cheapest (fun _ => true) ps with
    | none =>
      obtain ⟨q, hq⟩ := List.exists_mem_of_ne_nil ps hps
      cases cheapest_eq_none hall q hq
    | some i =>
      obtain ⟨p, hp, -, hle⟩ := exists_of_cheapest hall
      exact ⟨i, p, Option.none_or, hp, fun q hq hq' => absurd hq' (hnone q hq), fun _ q hq => hle q hq rfl⟩

/-- One round: some pattern is chosen and goes before the rest, whatever number of rounds follows. -/
theorem exists_round (used : List Variable) (hps : ps ≠ []) :
    ∃ p rest, (p :: rest).Perm ps ∧ Chosen used p (p :: rest) ∧
      ∀ fuel, orderFrom (fuel + 1) used ps = p :: orderFrom fuel (used ++ p.vars) rest := by
  obtain ⟨i, p, hi, hp, hchosen⟩ := exists_chosen used hps
  obtain ⟨hlt, rfl⟩ := List.getElem?_eq_some_iff.1 hp
  have hperm := List.getElem_cons_eraseIdx_perm hlt
  refine ⟨_, _, hperm, hchosen.of_perm hperm, fun fuel => ?_⟩
  rw [orderFrom]
  simp only [hi, hp]

/-- Ordering the patterns loses none and repeats none. -/
theorem orderFrom_perm (used : List Variable) (h : ps.length = fuel) : (orderFrom fuel used ps).Perm ps := by
  induction fuel generalizing used ps with
  | zero =>
    obtain rfl := List.length_eq_zero_iff.1 h
    exact .refl _
  | succ fuel ih =>
    obtain ⟨p, rest, hperm, -, hstep⟩ := exists_round used (List.ne_nil_of_length_eq_add_one h)
    have hl : rest.length = fuel := by
      have hl := hperm.length_eq
      rw [List.length_cons] at hl
      omega
    rw [hstep]
    exact ((ih _ hl).cons p).trans hperm

/-- More rounds than there are patterns add nothing. -/
theorem orderFrom_of_length_le (used : List Variable) (h : ps.length ≤ fuel) :
    orderFrom fuel used ps = orderFrom ps.length used ps := by
  induction fuel generalizing used ps with
  | zero => rw [Nat.le_zero.1 h]
  | succ fuel ih =>
    rcases eq_or_ne ps [] with rfl | hps
    · rfl
    obtain ⟨p, rest, hperm, -, hstep⟩ := exists_round used hps
    have hl := hperm.length_eq
    rw [List.length_cons] at hl
    rw [← hl, hstep, hstep, ih _ (by omega)]

/-- Whatever stands in the order was chosen before all that comes after it. -/
theorem chosen_of_orderFrom (h : ps.length = fuel) {before after : List TriplePattern}
    (ho : orderFrom fuel used ps = before ++ p :: after) : Chosen (used ++ before.flatMap vars) p (p :: after) := by
  induction fuel generalizing used ps before with
  | zero =>
    exact absurd ho.symm (List.append_ne_nil_of_right_ne_nil before (List.cons_ne_nil p after))
  | succ fuel ih =>
    obtain ⟨q, rest, hperm, hq, hstep⟩ := exists_round used (List.ne_nil_of_length_eq_add_one h)
    have hl : rest.length = fuel := by
      have hl := hperm.length_eq
      rw [List.length_cons] at hl
      omega
    rw [hstep] at ho
    cases before with
    | nil =>
      obtain ⟨rfl, rfl⟩ := List.cons.inj ho
      rw [List.flatMap_nil, List.append_nil]
      exact hq.of_perm ((orderFrom_perm _ hl).cons q)
    | cons b before =>
      obtain ⟨rfl, htail⟩ := List.cons.inj ho
      rw [List.flatMap_cons, ← List.append_assoc]
      exact ih hl htail

/-- The structural order has all patterns. -/
theorem structuralOrder_perm (ps : List TriplePattern) : (structuralOrder ps).Perm ps :=
  orderFrom_perm [] rfl

end Structural

end TriplePattern

namespace GraphRef

mutual

/-- A graph that can estimate does so. -/
theorem estimate_isOk (p : TriplePattern) :
    (r : GraphRef) → r.canEstimate d = true → ∃ n, r.estimate d p = .ok n
  | .single name => fun h => by
    rw [canEstimate] at h
    exact ⟨_, by rw [estimate, if_pos h]⟩
  | .union members => fun h => by
    rw [canEstimate, Bool.and_eq_true] at h
    exact estimateAll_isOk p members h.2

/-- All members of a union that can estimate do so. -/
theorem estimateAll_isOk (p : TriplePattern) :
    (members : List GraphRef) → allCanEstimate d members = true → ∃ n, estimateAll d p members = .ok n
  | [] => fun _ => ⟨0, rfl⟩
  | m :: ms => fun h => by
    rw [allCanEstimate, Bool.and_eq_true] at h
    obtain ⟨n, hn⟩ := estimate_isOk p m h.1
    obtain ⟨k, hk⟩ := estimateAll_isOk p ms h.2
    refine ⟨min (n + k) maxEstimate, ?_⟩
    rw [estimateAll, hn, hk]
    rfl

end

/-- A graph that is capable of estimates can estimate. -/
theorem canEstimate_of_capabilities (h : (r.capabilities d).estimate = true) : r.canEstimate d = true := by
  cases r with
  | single name => exact h
  | union members => exact h

end GraphRef

namespace Join

/-- Ordering by estimates succeeds where the graph can estimate, and has all patterns. -/
theorem orderByEstimate_perm (h : (r.capabilities d).estimate = true) (ps : List TriplePattern) :
    ∃ qs, orderByEstimate d r ps = .ok qs ∧ qs.Perm ps := by
  have hm : ∃ es, ps.mapM (fun p => r.estimate d p) = .ok es ∧ es.length = ps.length := by
    induction ps with
    | nil => exact ⟨[], rfl, rfl⟩
    | cons p ps ih =>
      obtain ⟨n, hn⟩ := r.estimate_isOk p (GraphRef.canEstimate_of_capabilities h)
      obtain ⟨es, hes, hl⟩ := ih
      refine ⟨n :: es, ?_, by simp [hl]⟩
      rw [List.mapM_cons, hn, hes]
      rfl
  obtain ⟨es, hes, hl⟩ := hm
  refine ⟨((ps.zip es).mergeSort precedes).map (·.1), ?_, ?_⟩
  · rw [orderByEstimate, hes]
    rfl
  · refine ((List.mergeSort_perm _ _).map _).trans (.of_eq ?_)
    exact List.map_fst_zip (by omega)

end Join

end SparqlAlgebra

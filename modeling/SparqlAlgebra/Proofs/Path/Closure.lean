import Mathlib.Order.Bounds.Defs
import SparqlAlgebra.Proofs.Path.Solutions

/-!
# Closures as least sets

A closure follows a path from a start until no new term turns up. It follows the start, which is found from the
beginning only if it is included, and each term that it finds on the way. What it finds is the least set that holds the
start if that is included, and all that is one step from the start or from a member. The closures in the two directions
are converse to each other.
-/

namespace SparqlAlgebra

namespace Path

variable {next : Term → List Term} {seen : KeySet Term} {found stack followed out : List Term}

/-! ## Followed terms -/

/-- The run of a closure until nothing waits on the stack, with the list of the terms that it follows. -/
inductive Traverses (next : Term → List Term) :
    KeySet Term → List Term → List Term → List Term → List Term → Prop
  | done {seen : KeySet Term} {found : List Term} : Traverses next seen found [] [] found.reverse
  | step {seen : KeySet Term} {found stack followed out : List Term} {y : Term} :
      Traverses next (seen.insertAll ((next y).filter fun z => !seen.contains z))
        (((next y).filter fun z => !seen.contains z).reverse ++ found)
        (((next y).filter fun z => !seen.contains z).reverse ++ stack) followed out →
      Traverses next seen found (y :: stack) (y :: followed) out

/-- A run that ends follows a list of terms. -/
theorem Closes.exists_traverses (h : Closes next seen found stack out) :
    ∃ followed, Traverses next seen found stack followed out := by
  induction h with
  | done => exact ⟨[], .done⟩
  | step _ ih =>
    obtain ⟨followed, h⟩ := ih
    exact ⟨_, .step h⟩

/-- The bound on the steps does not matter once it allows for all terms that are followed. -/
theorem Traverses.closeFrom_eq {fuel : Nat} (h : Traverses next seen found stack followed out)
    (hfuel : followed.length ≤ fuel) : closeFrom next fuel seen found stack = out := by
  induction h generalizing fuel with
  | done => cases fuel <;> rfl
  | step _ ih =>
    cases fuel with
    | zero => exact absurd hfuel (Nat.not_succ_le_zero _)
    | succ fuel =>
      rw [closeFrom]
      exact ih (Nat.le_of_succ_le_succ hfuel)

/-- Each term is followed once for each time that it waited at first or was found on the way. -/
theorem Traverses.perm (h : Traverses next seen found stack followed out) :
    (followed ++ found).Perm (stack ++ out) := by
  induction h with
  | done => exact (List.reverse_perm _).symm
  | @step seen found stack followed out y _ ih =>
    -- The new terms come both to what is found and to what waits.
    generalize ((next y).filter fun z => !seen.contains z).reverse = new at ih
    have hnew : (new ++ (followed ++ found)).Perm (new ++ (stack ++ out)) := by
      rw [← List.append_assoc new stack out]
      exact (List.perm_append_comm_assoc new followed found).trans ih
    exact ((List.perm_append_left_iff new).1 hnew).cons y

/-- From a start the terms of the result are followed, and besides the start unless it is included. -/
theorem Traverses.perm_start {includeStart : Bool} {x : Term}
    (h : Traverses next seen (if includeStart then [x] else []) [x] followed out) :
    followed.Perm (if includeStart then out else x :: out) := by
  have hperm := h.perm
  cases includeStart with
  | false => simpa using hperm
  | true =>
    have hcons : (x :: followed).Perm (x :: out) := List.perm_append_comm.trans hperm
    exact hcons.cons_inv

/-- A term is followed at most once more than it is found. -/
theorem Traverses.count_le {includeStart : Bool} {x : Term}
    (h : Traverses next seen (if includeStart then [x] else []) [x] followed out) (y : Term) :
    followed.count y ≤ out.count y + 1 := by
  rw [h.perm_start.count_eq]
  cases includeStart with
  | false =>
    rw [if_neg Bool.false_ne_true, List.count_cons]
    split <;> omega
  | true => exact Nat.le_succ _

/-! ## Least sets -/

/-- A set holds the start if it is included, what is one step from the start, and what is one step from its members. -/
structure HoldsSteps (R : Term → Term → Prop) (includeStart : Bool) (x : Term) (S : Set Term) : Prop where
  /-- The start is in the set if it is included. -/
  start_mem : includeStart = true → x ∈ S
  /-- What is one step from the start is in the set. -/
  step_start : ∀ y, R x y → y ∈ S
  /-- The set is closed under steps. -/
  step_mem : ∀ y ∈ S, ∀ z, R y z → z ∈ S

/-- What is reached from a start is the least set that holds the steps. -/
theorem isLeast_reached (R : Term → Term → Prop) (includeStart : Bool) (x : Term) :
    IsLeast {S | HoldsSteps R includeStart x S} {y | (includeStart = true ∧ y = x) ∨ Relation.TransGen R x y} := by
  constructor
  · refine ⟨fun hi => .inl ⟨hi, rfl⟩, fun y hy => .inr (.single hy), ?_⟩
    rintro y (⟨-, rfl⟩ | hy) z hz
    · exact .inr (.single hz)
    · exact .inr (hy.tail hz)
  · rintro S hS y (⟨hi, rfl⟩ | hy)
    · exact hS.start_mem hi
    · induction hy with
      | single hy => exact hS.step_start _ hy
      | tail _ hz ih => exact hS.step_mem _ ih _ hz

/-! ## Closures of paths -/

variable {ts : List Triple} {p : Path} {d : Direction} {includeStart : Bool} {x y : Term}

/-- The closure of a path finds the start if it is included and what one or more steps over the path relate to it. -/
theorem finds_close_reach (ts : List Triple) (p : Path) (d : Direction) (includeStart : Bool) :
    Finds (close ts (p.reach ts d) includeStart) fun x y =>
      (includeStart = true ∧ y = x) ∨ Relation.TransGen (d.Relates ts p) x y :=
  (finds_reach ts p d).close (fun _ _ h => Direction.Relates.eq_or_mem h) includeStart

/-- The closure of a path from a term holds what is reached in one or more steps, and the start if it is included. -/
theorem mem_close_reach :
    y ∈ close ts (p.reach ts d) includeStart x ↔
      (includeStart = true ∧ y = x) ∨ Relation.TransGen (d.Relates ts p) x y :=
  (finds_close_reach ts p d includeStart x).2 y

/-- The closure of a path from a term is the least set with this start that no step leaves. -/
theorem isLeast_close_reach (ts : List Triple) (p : Path) (d : Direction) (includeStart : Bool) (x : Term) :
    IsLeast {S | HoldsSteps (d.Relates ts p) includeStart x S} {y | y ∈ close ts (p.reach ts d) includeStart x} := by
  have hset : {y | y ∈ close ts (p.reach ts d) includeStart x} =
      {y | (includeStart = true ∧ y = x) ∨ Relation.TransGen (d.Relates ts p) x y} :=
    Set.ext fun _ => mem_close_reach
  rw [hset]
  exact isLeast_reached (d.Relates ts p) includeStart x

/-- Backward closures are converse to forward ones. -/
theorem mem_close_forward_iff :
    y ∈ close ts (p.reach ts .forward) includeStart x ↔ x ∈ close ts (p.reach ts .backward) includeStart y := by
  rw [mem_close_reach, mem_close_reach, transGen_direction, transGen_direction, eq_comm (a := y)]
  rfl

/-- The closure of a path ends. It follows the terms of the result once each, and besides the start unless it is
included, so that no term is followed more than once more often than it is found; allowing for more steps changes
nothing. The result is the least set that holds the start if it is included, what is one step over the path from the
start, and what is one step from its members. The forward closure of one term holds another one if and only if the
backward closure of the other one holds the first. -/
theorem close_reach_least (ts : List Triple) (p : Path) (d : Direction) (includeStart : Bool) (x : Term) :
    (∃ followed, Traverses (p.reach ts d) (.ofList (if includeStart then [x] else []))
        (if includeStart then [x] else []) [x] followed (close ts (p.reach ts d) includeStart x) ∧
      (∀ extra, closeFrom (p.reach ts d) (followed.length + extra) (.ofList (if includeStart then [x] else []))
        (if includeStart then [x] else []) [x] = close ts (p.reach ts d) includeStart x) ∧
      (∀ y, followed.count y ≤ (close ts (p.reach ts d) includeStart x).count y + 1) ∧
      followed.Perm (if includeStart then close ts (p.reach ts d) includeStart x
        else x :: close ts (p.reach ts d) includeStart x)) ∧
    (close ts (p.reach ts d) includeStart x).Nodup ∧
    IsLeast {S : Set Term | HoldsSteps (d.Relates ts p) includeStart x S}
      {y | y ∈ close ts (p.reach ts d) includeStart x} ∧
    ∀ y, y ∈ close ts (p.reach ts .forward) includeStart x ↔ x ∈ close ts (p.reach ts .backward) includeStart y := by
  obtain ⟨followed, hrun⟩ := (closes_reach ts p d includeStart x).exists_traverses
  refine ⟨⟨followed, hrun, fun extra => ?_, hrun.count_le, hrun.perm_start⟩, ?_, ?_, ?_⟩
  · exact hrun.closeFrom_eq (Nat.le_add_right _ extra)
  · exact (finds_close_reach ts p d includeStart x).1
  · exact isLeast_close_reach ts p d includeStart x
  · exact fun y => mem_close_forward_iff

-- On a circle the start is found again, though it is not included; without a step nothing is found.
example :
    let node (name : String) : Term := .iri ⟨name⟩
    let circle : List Triple := [⟨.iri ⟨"a"⟩, ⟨"p"⟩, node "b"⟩, ⟨.iri ⟨"b"⟩, ⟨"p"⟩, node "a"⟩]
    let next := (iri ⟨"p"⟩).reach circle .forward
    close circle next false (node "a") = [node "b", node "a"] ∧ close circle next false (node "c") = [] := by
  decide +kernel

end Path

end SparqlAlgebra

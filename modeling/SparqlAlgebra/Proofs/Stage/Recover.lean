import SparqlAlgebra.Stage.Engine

/-!
# Recovering from a failure

A handler makes a stage of the first failure of another one. The state in which it goes to work is the one that the
failing stage has left. An item-by-item engine keeps the values in front of the failure; a list-wise engine only has the
failure. So the two agree where nothing precedes the failure, and where the handler fails as well.
-/

namespace SparqlAlgebra

namespace Stage

variable {σ ε α β : Type}

/-! ## Runs and collections -/

/-- A run without a failure collects its values. -/
theorem collect_of_run_values {stage : Stage σ ε α} {xs : List α} {s : σ} (h : (stage.run s).1 = xs.map .ok) :
    stage.collect s = (.ok xs, (stage.run s).2) := by
  induction stage generalizing xs s with
  | done =>
    obtain rfl : xs = [] := List.map_eq_nil_iff.1 h.symm
    rfl
  | item x rest ih =>
    rw [run_item] at h
    obtain ⟨y, ys, rfl, rfl, hys⟩ := List.map_eq_cons_iff.1 h.symm
    rw [collect_ok, ih hys.symm, run_item]
    rfl
  | read next ih => exact ih s h
  | write t rest ih => exact ih h

/-- A run with a failure collects the first one. -/
theorem collect_of_run_failure {stage : Stage σ ε α} {xs : List α} {e : ε} {later : List (Except ε α)} {s : σ}
    (h : (stage.run s).1 = xs.map .ok ++ .error e :: later) : (stage.collect s).1 = .error e := by
  induction stage generalizing xs s with
  | done => simp at h
  | item x rest ih =>
    rw [run_item] at h
    cases xs with
    | nil =>
      obtain ⟨rfl, -⟩ := List.cons.inj h
      rfl
    | cons y ys =>
      obtain ⟨rfl, hrest⟩ := List.cons.inj h
      rw [collect_ok, ih hrest]
      rfl
  | read next ih => exact ih s h
  | write t rest ih => exact ih h

/-- A stage that is run for its effects collects nothing. -/
theorem collect_settle (stage : Stage σ ε α) (s : σ) : ((stage.settle : Stage σ ε β).collect s).1 = .ok [] := by
  induction stage generalizing s with
  | done => rfl
  | item x rest _ => rfl
  | read next ih => exact ih s s
  | write t rest ih => exact ih t

/-- What a stage delivers is not changed by effects after its end. -/
theorem collect_append_settle (stage : Stage σ ε β) (rest : Stage σ ε α) (s : σ) :
    ((stage.append rest.settle).collect s).1 = (stage.collect s).1 := by
  induction stage generalizing s with
  | done => exact collect_settle rest s
  | item x tail ih =>
    cases x with
    | error e => rfl
    | ok x => rw [append, collect_ok, collect_ok, ih]
  | read next ih => exact ih s s
  | write t tail ih => exact ih t

/-! ## The two ways to recover -/

namespace Streaming

/-- A handler has nothing to do where nothing fails. -/
theorem recover_of_values (handler : ε → Stage σ ε α) {stage : Stage σ ε α} {xs : List α} {s : σ}
    (h : (stage.run s).1 = xs.map .ok) : (recover handler stage).collect s = stage.collect s := by
  induction stage generalizing xs s with
  | done => rfl
  | item x rest ih =>
    rw [run_item] at h
    obtain ⟨y, ys, rfl, rfl, hys⟩ := List.map_eq_cons_iff.1 h.symm
    rw [recover, collect_ok, collect_ok, ih hys.symm]
  | read next ih => exact ih s h
  | write t rest ih => exact ih h

/-- The values before the failure are followed by those of the handler. -/
theorem recover_of_failure (handler : ε → Stage σ ε α) {stage : Stage σ ε α} {xs : List α} {e : ε}
    {later : List (Except ε α)} {s : σ} (h : (stage.run s).1 = xs.map .ok ++ .error e :: later) :
    ((recover handler stage).collect s).1 = ((handler e).collect (stage.collect s).2).1.map (xs ++ ·) := by
  induction stage generalizing xs s with
  | done => simp at h
  | item x rest ih =>
    rw [run_item] at h
    cases xs with
    | nil =>
      obtain ⟨rfl, -⟩ := List.cons.inj h
      rw [recover, collect_append_settle, collect_error]
      cases ((handler e).collect s).1 <;> rfl
    | cons y ys =>
      obtain ⟨rfl, hrest⟩ := List.cons.inj h
      rw [recover, collect_ok, collect_ok, ih hrest]
      cases ((handler e).collect (rest.collect s).2).1 <;> rfl
  | read next ih => exact ih s h
  | write t rest ih => exact ih h

end Streaming

/-- Collecting a list gives the list. -/
theorem collect_ofList (xs : List α) (s : σ) : (ofList xs : Stage σ ε α).collect s = (.ok xs, s) := by
  induction xs with
  | nil => rfl
  | cons x xs ih => rw [ofList, collect_ok, collect_read, ih]; rfl

namespace Vectorized

/-- On whole lists a handler has nothing to do for a stage that succeeds. -/
theorem recover_of_ok (handler : ε → Stage σ ε α) {stage : Stage σ ε α} {xs : List α} {s t : σ}
    (h : stage.collect s = (.ok xs, t)) : (recover handler stage).collect s = (.ok xs, t) := by
  rw [recover, collect_read, h]
  exact collect_ofList xs t

/-- Only the values of the handler are left. -/
theorem recover_of_error (handler : ε → Stage σ ε α) {stage : Stage σ ε α} {e : ε} {s t : σ}
    (h : stage.collect s = (.error e, t)) : (recover handler stage).collect s = (handler e).collect t := by
  rw [recover, collect_read, h]
  rcases hr : (handler e).collect t with ⟨e' | ys, u⟩
  · simp [hr, ofExcept, fail]
  · simp [hr, ofExcept, collect_ofList]

end Vectorized

end Stage

namespace Engine

open Stage

variable {σ ε α : Type}

/-- Without a failure the input is left as it is, its effects included, whatever the handler. After a failure the result
fails if and only if the handler does, with the failure of the handler. It consists of the values before the failure and
those of the handler just if the engine works item by item, nothing precedes the failure, or the handler fails. -/
theorem collect_recover (g : Engine) (handler : ε → Stage σ ε α) (stage : Stage σ ε α) (s : σ) :
    (∀ xs, (stage.run s).1 = xs.map .ok → (g.recover handler stage).collect s = (.ok xs, (stage.run s).2)) ∧
    ∀ xs e later, (stage.run s).1 = xs.map .ok ++ .error e :: later →
      let handled := ((handler e).collect (stage.collect s).2).1
      let result := ((g.recover handler stage).collect s).1
      (∀ f, result = .error f ↔ handled = .error f) ∧
      (result = handled.map (xs ++ ·) ↔ g = .streaming ∨ xs = [] ∨ ∃ f, handled = .error f) := by
  refine ⟨fun xs h => ?_, fun xs e later h => ?_⟩
  · have hcollect := collect_of_run_values h
    cases g with
    | streaming => exact (Streaming.recover_of_values handler h).trans hcollect
    | vectorized => exact Vectorized.recover_of_ok handler hcollect
  · have hcollect : stage.collect s = (.error e, (stage.collect s).2) := Prod.ext (collect_of_run_failure h) rfl
    intro handled result
    cases g with
    | streaming =>
      have hresult : result = handled.map (xs ++ ·) := Streaming.recover_of_failure handler h
      rw [hresult]
      cases handled <;> simp [Except.map]
    | vectorized =>
      have hresult : result = handled := by
        rw [show result = ((Vectorized.recover handler stage).collect s).1 from rfl,
          Vectorized.recover_of_error handler hcollect]
      rw [hresult]
      cases handled <;> simp [Except.map]

/-- One value, then a failure that is answered with another value: an item-by-item engine delivers both, a list-wise
engine loses the first one. -/
theorem collect_recover_second :
    let stage : Stage Unit String Nat := .ofItems [.ok 1, .error "failed"]
    let handler : String → Stage Unit String Nat := fun _ => .ofList [2]
    (stage.run ()).1 = [1].map .ok ++ .error "failed" :: [] ∧
    ((streaming.recover handler stage).collect ()).1 = .ok [1, 2] ∧
    ((vectorized.recover handler stage).collect ()).1 = .ok [2] ∧
    ((vectorized.recover handler stage).collect ()).1 ≠
      ((handler "failed").collect (stage.collect ()).2).1.map ([1] ++ ·) := by
  intro stage handler
  have hstreaming := ((collect_recover streaming handler stage ()).2 [1] "failed" [] rfl).2.2 (.inl rfl)
  have hvectorized := ((collect_recover vectorized handler stage ()).2 [1] "failed" [] rfl).2
  refine ⟨rfl, hstreaming, rfl, fun h => ?_⟩
  obtain h | h | ⟨f, h⟩ := hvectorized.1 h
  · exact absurd h (by decide)
  · exact absurd h (by decide)
  · exact absurd h nofun

end Engine

end SparqlAlgebra

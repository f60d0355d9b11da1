import SparqlAlgebra.Proofs.Stage.Failures

/-!
# Operators on what a stage collects to

Some operators neither look at the state nor change it, and let failures through. What such an operator collects to is
made of what its input collects to, failing or not, and the state that is left is the one that the input leaves. The
two engines then agree on every input. Rearranging goes further: nothing is handed on before all of the input is there,
so even a function that may fail finds the state as the input has left it.
-/

namespace SparqlAlgebra

namespace Stage

variable {σ ε α β γ : Type}

namespace Streaming

/-- Mapping a stream maps what it collects. -/
theorem collect_map (f : α → β) (stage : Stage σ ε α) (s : σ) :
    (map f stage).collect s = ((stage.collect s).1.map (List.map f), (stage.collect s).2) := by
  induction stage generalizing s with
  | done => rfl
  | item x rest ih =>
    cases x with
    | error e => rfl
    | ok x =>
      rw [map, collect_ok, collect_ok, ih]
      cases (rest.collect s).1 <;> rfl
  | read next ih => exact ih s s
  | write t rest ih => exact ih t

/-- Merging a list for each value of a stream puts the lists one after the other. -/
theorem collect_mergeMap_list (f : α → List β) (stage : Stage σ ε α) (s : σ) :
    (mergeMap (fun x => .ofList (f x)) stage).collect s =
      ((stage.collect s).1.map (List.flatMap f), (stage.collect s).2) := by
  have happend : ∀ (xs : List β) (rest : Stage σ ε β) (s : σ),
      ((ofList xs).append rest).collect s = ((rest.collect s).1.map (xs ++ ·), (rest.collect s).2) := by
    intro xs rest s
    induction xs with
    | nil => cases h : (rest.collect s).1 <;> exact Prod.ext h rfl
    | cons x xs ih =>
      rw [ofList, append, append, collect_ok, collect_read, ih]
      cases (rest.collect s).1 <;> rfl
  induction stage generalizing s with
  | done => rfl
  | item x rest ih =>
    cases x with
    | error e => rfl
    | ok x =>
      rw [mergeMap, happend, ih, collect_ok]
      cases (rest.collect s).1 <;> rfl
  | read next ih => exact ih s s
  | write t rest ih => exact ih t

/-- A stream of distinct values collects the first occurrences. -/
theorem collect_distinct [Keyed γ] (key : α → γ) (seen : KeySet γ) (stage : Stage σ ε α) (s : σ) :
    (distinct key seen stage).collect s =
      ((stage.collect s).1.map (KeySet.firstsFrom key seen []), (stage.collect s).2) := by
  induction stage generalizing seen s with
  | done => rfl
  | item x rest ih =>
    cases x with
    | error e => rfl
    | ok x =>
      rw [distinct, collect_ok]
      cases hx : seen.contains (key x) with
      | true =>
        rw [if_pos rfl, ih]
        cases (rest.collect s).1 with
        | error e => rfl
        | ok xs => simp [Except.map, KeySet.firstsFrom, hx]
      | false =>
        rw [if_neg Bool.false_ne_true, collect_ok, ih]
        cases (rest.collect s).1 with
        | error e => rfl
        | ok xs => simp [Except.map, KeySet.firstsFrom, hx, KeySet.firstsFrom_eq key _ [x]]
  | read next ih => exact ih s seen s
  | write t rest ih => exact ih seen t

/-- A gathered stream collects one list. -/
theorem collect_gather (stage : Stage σ ε α) (s : σ) :
    (gather stage).collect s = ((stage.collect s).1.map fun xs => [xs], (stage.collect s).2) := by
  have hreduce : ∀ (held : List α) (s : σ), (reduce (fun acc x => x :: acc) held stage).collect s =
      ((stage.collect s).1.map fun xs => [xs.reverse ++ held], (stage.collect s).2) := by
    intro held s
    induction stage generalizing held s with
    | done => rfl
    | item x rest ih =>
      cases x with
      | error e => rfl
      | ok x =>
        rw [reduce, ih, collect_ok]
        cases (rest.collect s).1 with
        | error e => rfl
        | ok xs => simp [Except.map]
    | read next ih => exact ih s held s
    | write t rest ih => exact ih held t
  rw [gather, collect_map, hreduce]
  cases (stage.collect s).1 with
  | error e => rfl
  | ok xs => simp [Except.map]

/-- The function is applied to the values of a list when all of the input is there. -/
theorem collect_tryMap_rearrange (f : List α → List β) (h : β → Except ε γ) (stage : Stage σ ε α) (s : σ) :
    (tryMap h (mergeMap ofList (map f (gather stage)))).collect s =
      ((stage.collect s).1 >>= fun xs => (f xs).mapM h, (stage.collect s).2) := by
  have hlist : ∀ (ys : List β) (s : σ), (tryMap h ((ofList ys).append .done)).collect s = (ys.mapM h, s) := by
    intro ys s
    induction ys with
    | nil => rfl
    | cons y ys ih =>
      rw [ofList, append, append, tryMap, tryMap, List.mapM_cons]
      cases h y with
      | error e => rfl
      | ok z =>
        rw [collect_ok, collect_read, ih]
        cases ys.mapM h <;> rfl
  have hreduce : ∀ (held : List α) (s : σ),
      (tryMap h (mergeMap ofList (map f (map List.reverse (reduce (fun acc x => x :: acc) held stage))))).collect s =
        ((stage.collect s).1 >>= fun xs => (f (held.reverse ++ xs)).mapM h, (stage.collect s).2) := by
    intro held s
    induction stage generalizing held s with
    | done =>
      have hnil : ((.ok [] : Except ε (List α)) >>= fun xs => (f (held.reverse ++ xs)).mapM h) =
          (f (held.reverse ++ [])).mapM h := rfl
      rw [reduce, map, map, map, map, mergeMap, mergeMap, hlist, collect_done, hnil, List.append_nil]
    | item x rest ih =>
      cases x with
      | error e => rfl
      | ok x =>
        rw [reduce, ih, collect_ok]
        cases (rest.collect s).1 with
        | error e => rfl
        | ok xs => simp [Except.map, bind, Except.bind]
    | read next ih => exact ih s held s
    | write t rest ih => exact ih held t
  exact hreduce [] s

end Streaming

/-- What has been collected is collected again. -/
theorem collect_ofExcept (r : Except ε (List α)) (s : σ) : (ofExcept r : Stage σ ε α).collect s = (r, s) := by
  cases r with
  | error e => rfl
  | ok xs => exact collect_ofList xs s

namespace Vectorized

/-- On whole lists, mapping with a function that may fail fails with the first failure. -/
theorem collect_tryMap (f : α → Except ε β) (stage : Stage σ ε α) (s : σ) :
    (tryMap f stage).collect s = ((stage.collect s).1 >>= List.mapM f, (stage.collect s).2) := by
  rw [tryMap, materialize, collect_read]
  rcases stage.collect s with ⟨e | xs, t⟩
  · rfl
  · exact collect_ofExcept _ t

/-- Merging a list for each value puts the lists one after the other. -/
theorem collect_mergeMap_list (f : α → List β) (stage : Stage σ ε α) (s : σ) :
    (mergeMap (fun x => .ofList (f x)) stage).collect s =
      ((stage.collect s).1.map (List.flatMap f), (stage.collect s).2) := by
  have heach : ∀ (xs : List α) (s : σ),
      collectEach (fun x => (ofList (f x) : Stage σ ε β)) xs s = (.ok (xs.flatMap f), s) := by
    intro xs s
    induction xs with
    | nil => rfl
    | cons x xs ih =>
      rw [collectEach_cons, collect_ofList]
      dsimp only
      rw [ih]
      rfl
  rw [mergeMap, materialize, collect_read]
  rcases stage.collect s with ⟨e | xs, t⟩
  · rfl
  · dsimp only
    rw [heach]
    exact collect_ofList _ t

end Vectorized

end Stage

namespace Engine

open Stage

variable {σ ε α β γ : Type}

/-- On either engine, mapping maps what is collected. -/
theorem collect_map (g : Engine) (f : α → β) (stage : Stage σ ε α) (s : σ) :
    (g.map f stage).collect s = ((stage.collect s).1.map (List.map f), (stage.collect s).2) := by
  cases g with
  | streaming => exact Streaming.collect_map f stage s
  | vectorized => exact Vectorized.collect_onList _ stage s

/-- Merging a list for each value puts the lists one after the other. -/
theorem collect_mergeMap_list (g : Engine) (f : α → List β) (stage : Stage σ ε α) (s : σ) :
    (g.mergeMap (fun x => .ofList (f x)) stage).collect s =
      ((stage.collect s).1.map (List.flatMap f), (stage.collect s).2) := by
  cases g with
  | streaming => exact Streaming.collect_mergeMap_list f stage s
  | vectorized => exact Vectorized.collect_mergeMap_list f stage s

/-- Distinct values are the first occurrences. -/
theorem collect_distinct [Keyed γ] (g : Engine) (key : α → γ) (stage : Stage σ ε α) (s : σ) :
    (g.distinct key stage).collect s = ((stage.collect s).1.map (KeySet.firstsOn key), (stage.collect s).2) := by
  cases g with
  | streaming => exact Streaming.collect_distinct key .empty stage s
  | vectorized => exact Vectorized.collect_onList _ stage s

/-- Gathering collects one list. -/
theorem collect_gather (g : Engine) (stage : Stage σ ε α) (s : σ) :
    (g.gather stage).collect s = ((stage.collect s).1.map fun xs => [xs], (stage.collect s).2) := by
  cases g with
  | streaming => exact Streaming.collect_gather stage s
  | vectorized => exact Vectorized.collect_onList _ stage s

/-- Rearranging a stage rearranges what it collects. -/
theorem collect_rearrange (g : Engine) (f : List α → List β) (stage : Stage σ ε α) (s : σ) :
    (g.rearrange f stage).collect s = ((stage.collect s).1.map f, (stage.collect s).2) := by
  have hlist := g.collect_mergeMap_list (fun xs : List β => xs) (g.map f (g.gather stage)) s
  rw [collect_map, collect_gather] at hlist
  rw [rearrange, hlist]
  cases (stage.collect s).1 with
  | error e => rfl
  | ok xs => simp [Except.map]

/-- A function that may fail is applied to the rearranged values when all of the input is there. -/
theorem collect_tryMap_rearrange (g : Engine) (f : List α → List β) (h : β → Except ε γ) (stage : Stage σ ε α) (s : σ) :
    (g.tryMap h (g.rearrange f stage)).collect s =
      ((stage.collect s).1 >>= fun xs => (f xs).mapM h, (stage.collect s).2) := by
  cases g with
  | streaming => exact Streaming.collect_tryMap_rearrange f h stage s
  | vectorized =>
    rw [tryMap, Vectorized.collect_tryMap, collect_rearrange]
    cases (stage.collect s).1 <;> rfl

end Engine

end SparqlAlgebra

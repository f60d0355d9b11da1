import SparqlAlgebra.Proofs.Plan.Collected
import SparqlAlgebra.Proofs.Solution.Merge
import SparqlAlgebra.Proofs.Text.Codes

/-!
# Solutions without repetitions

Two solutions have the same key just if they bind the same variables to the same terms: names and terms can be read
back from the text, whatever characters they consist of. So the set of keys that have been seen knows which solutions
have been seen, and what is left of a list are its members at their first occurrences.
-/

namespace SparqlAlgebra

namespace KeySet

variable {α κ : Type} [Keyed κ] [DecidableEq α]

/-- With keys that tell the values apart, the firsts of the keys are the firsts of the values. -/
theorem firstsFrom_eq_eraseDups {f : α → κ} (hf : Function.Injective f) (seen : KeySet κ) (xs : List α) :
    firstsFrom f seen [] xs = (xs.filter fun x => !seen.contains (f x)).eraseDups := by
  induction xs generalizing seen with
  | nil => rfl
  | cons x xs ih =>
    rw [firstsFrom, List.filter_cons]
    cases hx : seen.contains (f x) with
    | true => exact ih seen
    | false =>
      have hseen : ∀ y, (!(seen.insert (f x)).contains (f y)) = (!y == x && !seen.contains (f y)) := by
        intro y
        rw [Bool.eq_iff_iff, Bool.not_eq_true', Bool.eq_false_iff, Ne, contains_insert]
        simp [hf.eq_iff, eq_comm (a := x) (b := y)]
      rw [if_neg Bool.false_ne_true, firstsFrom_eq, ih, Bool.not_false, if_pos rfl, List.eraseDups_cons,
        List.filter_filter]
      simp only [hseen]
      rfl

/-- If nothing shares a key, the first occurrences are those of the values themselves. -/
theorem firstsOn_eq_eraseDups {f : α → κ} (hf : Function.Injective f) (xs : List α) :
    firstsOn f xs = xs.eraseDups := by
  simp [firstsOn, firstsFrom_eq_eraseDups hf]

end KeySet

/-- Removing repetitions twice removes no more. -/
theorem eraseDups_eraseDups {α : Type} [DecidableEq α] (xs : List α) : xs.eraseDups.eraseDups = xs.eraseDups := by
  induction h : xs.length using Nat.strong_induction_on generalizing xs with
  | _ n ih =>
    cases xs with
    | nil => rfl
    | cons x xs =>
      have hfilter : ∀ ys : List α, (ys.filter fun y => !y == x).eraseDups.filter (fun y => !y == x) =
          (ys.filter fun y => !y == x).eraseDups := fun ys => List.filter_eq_self.2 fun y hy =>
        (List.mem_filter.1 (List.mem_eraseDups.1 hy)).2
      have hshort : (xs.filter fun y => !y == x).length < n := by
        rw [← h, List.length_cons]
        exact Nat.lt_succ_of_le (List.length_filter_le _ xs)
      rw [List.eraseDups_cons, List.eraseDups_cons, hfilter, ih _ hshort _ rfl]

namespace Stage

/-- Values behind the first failure have no part in the firsts of the values in front of it. -/
theorem Streaming.splitAtFailure_run_distinct {σ ε α γ : Type} [Keyed γ] (key : α → γ) (seen : KeySet γ)
    (stage : Stage σ ε α) (s : σ) :
    (splitAtFailure ((distinct key seen stage).run s).1).1 =
      KeySet.firstsFrom key seen [] (splitAtFailure (stage.run s).1).1 := by
  induction stage generalizing seen s with
  | done => rfl
  | item x rest ih =>
    cases x with
    | error e =>
      rw [distinct, run_item, run_item]
      rfl
    | ok x =>
      rw [distinct, run_item, splitAtFailure_ok, KeySet.firstsFrom]
      split
      · exact ih seen s
      · rw [run_item, splitAtFailure_ok, ih, KeySet.firstsFrom_eq key _ [x]]
        rfl
  | read next ih => exact ih s seen s
  | write t rest ih => exact ih seen t

end Stage

namespace Engine

open Stage

/-- What comes out is what goes in without repetitions, each value where it comes first, in front of the first failure
and behind it. -/
theorem collect_distinct_of_injective {σ ε α γ : Type} [DecidableEq α] [Keyed γ] {key : α → γ}
    (hkey : Function.Injective key) (g : Engine) (stage : Stage σ ε α) (s : σ) :
    (g.distinct key stage).collect s = ((stage.collect s).1.map List.eraseDups, (stage.collect s).2) := by
  have hfirsts : KeySet.firstsOn key = List.eraseDups := funext (KeySet.firstsOn_eq_eraseDups hkey)
  rw [collect_distinct, hfirsts]

/-- What is kept of a stage of distinct items is what is kept of the stage, each item once. -/
theorem kept_distinct {σ ε α γ : Type} [DecidableEq α] [Keyed γ] {key : α → γ} (hkey : Function.Injective key)
    (g : Engine) (stage : Stage σ ε α) (s : σ) :
    g.kept ((g.distinct key stage).run s).1 = (g.kept (stage.run s).1).eraseDups := by
  cases g with
  | streaming =>
    rw [kept, kept, distinct, Streaming.splitAtFailure_run_distinct]
    exact KeySet.firstsOn_eq_eraseDups hkey _
  | vectorized =>
    rw [kept, kept, ← collect_eq_outcome, ← collect_eq_outcome, collect_distinct_of_injective hkey]
    cases (stage.collect s).1 <;> rfl

end Engine

namespace Plan

/-- Keys are the same just for solutions that bind the same variables to the same terms. So what is delivered are the
solutions of the input without repetitions, each where it comes first, up to a failure of the input; and removing
repetitions once more changes nothing. -/
theorem distinct_keeps_firsts :
    (∀ a b : Solution, a.key = b.key ↔ ∀ v, a.get? v = b.get? v) ∧
    (∀ (g : Engine) (stage : Flow Solution) (st : Store),
      let unique := g.distinct Solution.key stage
      unique.collect st = ((stage.collect st).1.map List.eraseDups, (stage.collect st).2) ∧
      g.kept (unique.run st).1 = (g.kept (stage.run st).1).eraseDups ∧
      (g.distinct Solution.key unique).collect st = unique.collect st) ∧
    ∀ (inner : Plan) (c : Scope) (source : Flow Solution) (st : Store),
      let found := (inner c source >>= collect).run st
      let unique := (distinct inner c source >>= collect).run st
      unique = (found.1.map List.eraseDups, found.2) ∧
      (distinct (distinct inner) c source >>= collect).run st = unique := by
  have hkey : Function.Injective Solution.key := fun a b => Solution.key_injective a b
  have htwice : ∀ r : Except QueryError (List Solution), (r.map List.eraseDups).map List.eraseDups =
      r.map List.eraseDups := by
    intro r
    cases r with
    | error e => rfl
    | ok rows => exact congrArg Except.ok (eraseDups_eraseDups rows)
  have hplan : ∀ (inner : Plan) (c : Scope) (source : Flow Solution) (st : Store),
      (distinct inner c source >>= collect).run st =
        (((inner c source >>= collect).run st).1.map List.eraseDups, ((inner c source >>= collect).run st).2) :=
    fun inner c source st => run_collect_map (Engine.collect_distinct_of_injective hkey c.engine) (inner c source) st
  refine ⟨fun a b => ?_, fun g stage st => ⟨?_, ?_, ?_⟩, fun inner c source st => ⟨?_, ?_⟩⟩
  · rw [hkey.eq_iff, Solution.ext_iff]
  · exact g.collect_distinct_of_injective hkey stage st
  · exact g.kept_distinct hkey stage st
  · rw [Engine.collect_distinct_of_injective hkey, Engine.collect_distinct_of_injective hkey, htwice]
  · exact hplan inner c source st
  · rw [hplan, hplan, htwice]

end Plan

end SparqlAlgebra

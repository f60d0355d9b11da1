import SparqlAlgebra.Proofs.Stage.Prompt

/-!
# Selections that look at the state

A selection decides for each value whether it is kept. It may look at the state for that, and it may fail, but it
changes nothing. Where a decision is the conjunction of two others, selecting with it is selecting with one after the
other: item by item both decisions are made in the same state, and on whole lists all of them are made in the state
that the input has left.
-/

namespace SparqlAlgebra

namespace Stage

variable {σ ε α : Type} {R : σ → σ → Prop} {s t : σ} {a b : Stage σ ε α} {K K₁ K₂ : σ → α → Except ε Bool}

/-- The value, if the decision is to keep it. -/
def choice (K : σ → α → Except ε Bool) (x : α) : Stage σ ε α :=
  .read fun s => ofExcept ((K s x).map fun keep => if keep then [x] else [])

/-- Whether a value is kept is read before anything else. -/
theorem prompt_choice (K : σ → α → Except ε Bool) (x : α) : Prompt (choice K x) := prompt_read _

/-- What is collected is the value, if it is kept. -/
@[simp] theorem collect_choice (K : σ → α → Except ε Bool) (x : α) (s : σ) :
    (choice K x).collect s = ((K s x).map fun keep => if keep then [x] else [], s) := collect_ofExcept _ s

/-- In related states, what one decision keeps is what two others keep together. -/
def Splits (R : σ → σ → Prop) (K K₁ K₂ : σ → α → Except ε Bool) : Prop :=
  ∀ s t x k, R s t → K s x = .ok k → ∃ k₁ k₂, K₁ t x = .ok k₁ ∧ K₂ t x = .ok k₂ ∧ k = (k₁ && k₂)

namespace Streaming

/-- A choice in front of a stage keeps its value, leaves it out or fails. -/
theorem collect_choice_append (K : σ → α → Except ε Bool) (x : α) (rest : Stage σ ε α) (s : σ) :
    ((choice K x).append rest).collect s =
      match K s x with
      | .error e => (.error e, s)
      | .ok true => ((rest.collect s).1.map (x :: ·), (rest.collect s).2)
      | .ok false => rest.collect s := by
  change ((ofExcept ((K s x).map fun keep => if keep then [x] else [])).append rest).collect s = _
  rcases K s x with e | _ | _
  · rfl
  · rfl
  · exact collect_ok x _ s

/-- What is kept by one choice is left to the other one. -/
theorem collect_mergeMap_choice_append (K₁ K₂ : σ → α → Except ε Bool) (x : α) (rest : Stage σ ε α) (s : σ) :
    (mergeMap (choice K₂) ((choice K₁ x).append rest)).collect s =
      match K₁ s x with
      | .error e => (.error e, s)
      | .ok true => ((choice K₂ x).append (mergeMap (choice K₂) rest)).collect s
      | .ok false => (mergeMap (choice K₂) rest).collect s := by
  change (mergeMap (choice K₂)
    ((ofExcept ((K₁ s x).map fun keep => if keep then [x] else [])).append rest)).collect s = _
  rcases K₁ s x with e | _ | _
  · rfl
  · rfl
  · change ((choice K₂ x).append (.read fun _ => mergeMap (choice K₂) rest)).collect s = _
    rw [collect_choice_append, collect_choice_append]
    rfl

/-- If a selection splits in two and succeeds, both one after the other give the same. -/
theorem collect_select_select (hK : Splits R K K₁ K₂) (h : SimilarAt R a s b t) {ys : List α}
    (hys : ((mergeMap (choice K) a).collect s).1 = .ok ys) :
    ((mergeMap (choice K₂) (mergeMap (choice K₁) b)).collect t).1 = .ok ys := by
  induction h generalizing ys with
  | done => exact hys
  | @item x a b s t hR _ ih =>
    cases x with
    | error e => cases hys
    | ok x =>
      rw [mergeMap, collect_choice_append] at hys
      rw [mergeMap, collect_mergeMap_choice_append]
      cases hk : K s x with
      | error e =>
        rw [hk] at hys
        cases hys
      | ok k =>
        obtain ⟨k₁, k₂, h₁, h₂, rfl⟩ := hK s t x k hR hk
        rw [hk] at hys
        rw [h₁]
        cases k₁ with
        | false => exact ih s t hR hys
        | true =>
          dsimp only
          rw [collect_choice_append, h₂]
          cases k₂ with
          | false => exact ih s t hR hys
          | true =>
            cases hrest : ((mergeMap (choice K) a).collect s).1 with
            | error e =>
              simp only [Bool.and_self, hrest] at hys
              cases hys
            | ok zs =>
              simp only [Bool.and_self, hrest] at hys
              dsimp only
              rw [ih s t hR hrest]
              exact hys
  | readLeft _ ih => exact ih hys
  | readRight _ ih => exact ih hys
  | writeLeft _ ih => exact ih hys
  | writeRight _ ih => exact ih hys

end Streaming

namespace Vectorized

/-- All decisions are made in the same state. -/
theorem collectEach_choice_snd (K : σ → α → Except ε Bool) (xs : List α) (s : σ) :
    (collectEach (choice K) xs s).2 = s := by
  induction xs with
  | nil => rfl
  | cons x xs ih =>
    rw [collectEach_cons, collect_choice]
    cases K s x with
    | error e => rfl
    | ok k => exact ih

/-- Going through a list with a selection that splits in two gives the same as with both one after the other. -/
theorem collectEach_choice_choice (hK : Splits R K K₁ K₂) (hR : R s t) {xs ys : List α}
    (hys : (collectEach (choice K) xs s).1 = .ok ys) :
    ∃ zs, (collectEach (choice K₁) xs t).1 = .ok zs ∧ (collectEach (choice K₂) zs t).1 = .ok ys := by
  induction xs generalizing ys with
  | nil => exact ⟨[], rfl, hys⟩
  | cons x xs ih =>
    rw [collectEach_cons, collect_choice] at hys
    rw [collectEach_cons, collect_choice]
    cases hk : K s x with
    | error e =>
      rw [hk] at hys
      cases hys
    | ok k =>
      obtain ⟨k₁, k₂, h₁, h₂, rfl⟩ := hK s t x k hR hk
      rw [hk] at hys
      cases hrest : (collectEach (choice K) xs s).1 with
      | error e =>
        simp only [Except.map, hrest] at hys
        cases hys
      | ok ys' =>
        obtain ⟨zs, hzs, hys'⟩ := ih hrest
        simp only [Except.map, hrest, Except.ok.injEq] at hys
        subst hys
        refine ⟨(if k₁ = true then [x] else []) ++ zs, by rw [h₁]; simp only [Except.map, hzs], ?_⟩
        cases k₁ with
        | false => exact hys'
        | true =>
          rw [if_pos rfl, List.singleton_append, collectEach_cons, collect_choice, h₂]
          simp only [Except.map, hys', Bool.true_and]

end Vectorized

end Stage

namespace Engine

open Stage

variable {σ ε α : Type} {R : σ → σ → Prop} {s t : σ} {a b : Stage σ ε α} {K K₁ K₂ : σ → α → Except ε Bool}

/-- Keeps the values that a decision is for. -/
def select (g : Engine) (K : σ → α → Except ε Bool) (a : Stage σ ε α) : Stage σ ε α := g.mergeMap (choice K) a

/-- Where selecting with a conjunction does not fail, selecting with one part after the other keeps the same values. -/
theorem collect_select_select (g : Engine) (hK : Splits R K K₁ K₂) (h : Similar R a b) (hR : R s t) {ys : List α}
    (hys : ((g.select K a).collect s).1 = .ok ys) : ((g.select K₂ (g.select K₁ b)).collect t).1 = .ok ys := by
  cases g with
  | streaming => exact Streaming.collect_select_select hK (h s t hR) hys
  | vectorized =>
    obtain ⟨hvalue, hstate⟩ := h.collect hR
    simp only [select, mergeMap, Vectorized.collect_mergeMap] at hys ⊢
    rcases ha : a.collect s with ⟨e | xs, s'⟩
    · rw [ha] at hys
      cases hys
    · rcases hb : b.collect t with ⟨w, t'⟩
      rw [ha, hb] at hvalue hstate
      rw [ha] at hys
      subst hvalue
      obtain ⟨zs, hzs, hys'⟩ := Vectorized.collectEach_choice_choice hK hstate hys
      dsimp only
      rcases hc : Vectorized.collectEach (choice K₁) xs t' with ⟨w, u⟩
      have hu := Vectorized.collectEach_choice_snd K₁ xs t'
      rw [hc] at hzs hu
      subst hzs hu
      exact hys'

end Engine

end SparqlAlgebra

import Mathlib.Data.List.Forall2
import SparqlAlgebra.Stage.Engine

/-!
# Stages that cannot be told apart

Two runs go on side by side, in states that are related. Their stages are similar if they have the same items
and leave the states related whenever an item comes, whatever related states they are resumed in. How they look
at the states and change them in between is left open. Each operator makes similar stages of similar stages, in
either engine.
-/

namespace SparqlAlgebra

namespace Stage

variable {σ ε α β γ : Type} {R : σ → σ → Prop} {s t : σ}

/-- From these states on the stages have the same items. -/
inductive SimilarAt (R : σ → σ → Prop) : Stage σ ε α → σ → Stage σ ε α → σ → Prop
  | done {s t : σ} : R s t → SimilarAt R .done s .done t
  | item {x : Except ε α} {a b : Stage σ ε α} {s t : σ} :
      R s t → (∀ s t, R s t → SimilarAt R a s b t) → SimilarAt R (.item x a) s (.item x b) t
  | readLeft {next : σ → Stage σ ε α} {b : Stage σ ε α} {s t : σ} :
      SimilarAt R (next s) s b t → SimilarAt R (.read next) s b t
  | readRight {a : Stage σ ε α} {next : σ → Stage σ ε α} {s t : σ} :
      SimilarAt R a s (next t) t → SimilarAt R a s (.read next) t
  | writeLeft {a b : Stage σ ε α} {s t u : σ} : SimilarAt R a u b t → SimilarAt R (.write u a) s b t
  | writeRight {a b : Stage σ ε α} {s t u : σ} : SimilarAt R a s b u → SimilarAt R a s (.write u b) t

/-- The stages have the same items from all related states on. -/
def Similar (R : σ → σ → Prop) (a b : Stage σ ε α) : Prop := ∀ s t, R s t → SimilarAt R a s b t

/-- The items do not depend on which of two related states the stage is run in. -/
abbrev SelfSimilar (R : σ → σ → Prop) (a : Stage σ ε α) : Prop := Similar R a a

/-- Empty stages have the same items. -/
theorem Similar.done : Similar R (.done : Stage σ ε α) .done := fun _ _ h => .done h

/-- The same item in front leaves similar stages similar. -/
theorem Similar.item {a b : Stage σ ε α} (x : Except ε α) (h : Similar R a b) :
    Similar R (.item x a) (.item x b) := fun _ _ hR => .item hR h

/-- Reading related states goes on with similar stages. -/
theorem Similar.read {f g : σ → Stage σ ε α} (h : ∀ s t, R s t → SimilarAt R (f s) s (g t) t) :
    Similar R (.read f) (.read g) := fun s t hR => .readLeft (.readRight (h s t hR))

/-- A list has the same items in all states. -/
theorem Similar.ofList (xs : List α) : Similar R (ofList xs : Stage σ ε α) (ofList xs) := by
  induction xs with
  | nil => exact .done
  | cons x xs ih => exact .item _ (.read ih)

/-- A failure is the same failure. -/
theorem Similar.fail (e : ε) : Similar R (fail e : Stage σ ε α) (fail e) := .item _ .done

/-- A result is the same result. -/
theorem Similar.ofExcept (r : Except ε (List α)) : Similar R (ofExcept r : Stage σ ε α) (ofExcept r) := by
  cases r with
  | ok xs => exact .ofList xs
  | error e => exact .fail e

/-- Stages that are computed from the states are similar if they always come out similar. -/
theorem Similar.act {f g : σ → Stage σ ε α × σ}
    (h : ∀ s t, R s t → Similar R (f s).1 (g t).1 ∧ R (f s).2 (g t).2) :
    Similar R (Stage.act f) (Stage.act g) :=
  .read fun s t hR => .writeLeft (.writeRight ((h s t hR).1 _ _ (h s t hR).2))

/-- Collecting similar stages gives the same and leaves the states related. -/
theorem SimilarAt.collect {a b : Stage σ ε α} (h : SimilarAt R a s b t) :
    (a.collect s).1 = (b.collect t).1 ∧ R (a.collect s).2 (b.collect t).2 := by
  induction h with
  | done h => exact ⟨rfl, h⟩
  | @item x a b s t h _ ih =>
    cases x with
    | error e => exact ⟨rfl, h⟩
    | ok x =>
      obtain ⟨hv, hs⟩ := ih s t h
      rw [collect_ok, collect_ok, hv]
      exact ⟨rfl, hs⟩
  | readLeft _ ih => exact ih
  | readRight _ ih => exact ih
  | writeLeft _ ih => exact ih
  | writeRight _ ih => exact ih

/-- Collecting stages with the same items gives the same, and related states. -/
theorem Similar.collect {a b : Stage σ ε α} (h : Similar R a b) (hR : R s t) :
    (a.collect s).1 = (b.collect t).1 ∧ R (a.collect s).2 (b.collect t).2 := (h s t hR).collect

/-- Similar stages behind similar ones are similar. -/
theorem SimilarAt.append {a b a' b' : Stage σ ε α} (h : SimilarAt R a s b t) (k : Similar R a' b') :
    SimilarAt R (a.append a') s (b.append b') t := by
  induction h with
  | done h => exact k _ _ h
  | item h _ ih => exact .item h ih
  | readLeft _ ih => exact .readLeft ih
  | readRight _ ih => exact .readRight ih
  | writeLeft _ ih => exact .writeLeft ih
  | writeRight _ ih => exact .writeRight ih

/-- Run for their effects, similar stages lead to related states. -/
theorem SimilarAt.settle {a b : Stage σ ε α} (h : SimilarAt R a s b t) :
    SimilarAt R (a.settle : Stage σ ε β) s b.settle t := by
  induction h with
  | done h => exact .done h
  | item h _ _ => exact .done h
  | readLeft _ ih => exact .readLeft ih
  | readRight _ ih => exact .readRight ih
  | writeLeft _ ih => exact .writeLeft ih
  | writeRight _ ih => exact .writeRight ih

/-! ## Operators that work item by item -/

namespace Streaming

variable {a b : Stage σ ε α}

/-- Mapping with a function that may fail keeps the items the same. -/
theorem similarAt_tryMap (f : α → Except ε β) (h : SimilarAt R a s b t) :
    SimilarAt R (tryMap f a) s (tryMap f b) t := by
  induction h with
  | done h => exact .done h
  | @item x _ _ _ _ h _ ih =>
    cases x with
    | error e => exact .item h ih
    | ok x => exact .item h ih
  | readLeft _ ih => exact .readLeft ih
  | readRight _ ih => exact .readRight ih
  | writeLeft _ ih => exact .writeLeft ih
  | writeRight _ ih => exact .writeRight ih

/-- Mapping keeps the items the same. -/
theorem similarAt_map (f : α → β) (h : SimilarAt R a s b t) : SimilarAt R (map f a) s (map f b) t := by
  induction h with
  | done h => exact .done h
  | @item x _ _ _ _ h _ ih =>
    cases x with
    | error e => exact .item h ih
    | ok x => exact .item h ih
  | readLeft _ ih => exact .readLeft ih
  | readRight _ ih => exact .readRight ih
  | writeLeft _ ih => exact .writeLeft ih
  | writeRight _ ih => exact .writeRight ih

/-- Leaving values out keeps the items the same. -/
theorem similarAt_filterMap (f : α → Option β) (h : SimilarAt R a s b t) :
    SimilarAt R (filterMap f a) s (filterMap f b) t := by
  induction h with
  | done h => exact .done h
  | @item x _ _ _ _ h _ ih =>
    cases x with
    | error e => exact .item h ih
    | ok x =>
      rw [filterMap, filterMap]
      cases f x with
      | none => exact ih _ _ h
      | some y => exact .item h ih
  | readLeft _ ih => exact .readLeft ih
  | readRight _ ih => exact .readRight ih
  | writeLeft _ ih => exact .writeLeft ih
  | writeRight _ ih => exact .writeRight ih

/-- The functions may differ in how they change the state. -/
theorem similarAt_filterMapWithState {f g : α → σ → Except ε (Option β) × σ}
    (hf : ∀ x s t, R s t → (f x s).1 = (g x t).1 ∧ R (f x s).2 (g x t).2) (h : SimilarAt R a s b t) :
    SimilarAt R (filterMapWithState f a) s (filterMapWithState g b) t := by
  induction h with
  | done h => exact .done h
  | @item x _ _ s t h _ ih =>
    cases x with
    | error e => exact .item h ih
    | ok x =>
      refine .readLeft (.readRight ?_)
      obtain ⟨hv, hs⟩ := hf x s t h
      rcases hfx : f x s with ⟨v, u⟩
      rcases hgx : g x t with ⟨w, w'⟩
      rw [hfx, hgx] at hv hs
      obtain rfl : v = w := hv
      rcases v with e | _ | y
      · exact .writeLeft (.writeRight (.item hs ih))
      · exact .writeLeft (.writeRight (ih _ _ hs))
      · exact .writeLeft (.writeRight (.item hs ih))
  | readLeft _ ih => exact .readLeft ih
  | readRight _ ih => exact .readRight ih
  | writeLeft _ ih => exact .writeLeft ih
  | writeRight _ ih => exact .writeRight ih

/-- Merging similar streams keeps them the same. -/
theorem similarAt_mergeMap {f g : α → Stage σ ε β} (hf : ∀ x, Similar R (f x) (g x))
    (h : SimilarAt R a s b t) : SimilarAt R (mergeMap f a) s (mergeMap g b) t := by
  induction h with
  | done h => exact .done h
  | @item x _ _ s t h _ ih =>
    cases x with
    | error e => exact .item h ih
    | ok x => exact (hf x s t h).append ih
  | readLeft _ ih => exact .readLeft ih
  | readRight _ ih => exact .readRight ih
  | writeLeft _ ih => exact .writeLeft ih
  | writeRight _ ih => exact .writeRight ih

/-- What the values are folded to is the same. -/
theorem similarAt_reduce (f : β → α → β) (acc : β) (h : SimilarAt R a s b t) :
    SimilarAt R (reduce f acc a) s (reduce f acc b) t := by
  induction h generalizing acc with
  | done h => exact .item h fun _ _ h => .done h
  | @item x _ _ s t h _ ih =>
    cases x with
    | error e => exact Similar.fail e s t h
    | ok x => exact ih s t h _
  | readLeft _ ih => exact .readLeft (ih acc)
  | readRight _ ih => exact .readRight (ih acc)
  | writeLeft _ ih => exact .writeLeft (ih acc)
  | writeRight _ ih => exact .writeRight (ih acc)

/-- A limit leaves the same items. -/
theorem similarAt_limit_succ (n : Nat) (h : SimilarAt R a s b t) :
    SimilarAt R (limit (n + 1) a) s (limit (n + 1) b) t := by
  induction h generalizing n with
  | done h => exact .done h
  | item h _ ih =>
    cases n with
    | zero =>
      rw [limit, limit, limit, limit]
      exact .item h fun _ _ h => .done h
    | succ n => exact .item h fun s t h => ih s t h n
  | readLeft _ ih => exact .readLeft (ih n)
  | readRight _ ih => exact .readRight (ih n)
  | writeLeft _ ih => exact .writeLeft (ih n)
  | writeRight _ ih => exact .writeRight (ih n)

/-- Any limit leaves the same items; one of zero leaves none. -/
theorem similar_limit (n : Nat) (h : Similar R a b) : Similar R (limit n a) (limit n b) := by
  cases n with
  | zero =>
    rw [limit, limit]
    exact .done
  | succ n => exact fun s t hR => similarAt_limit_succ n (h s t hR)

/-- Skipping leaves the same items. -/
theorem similarAt_skip_succ (n : Nat) (h : SimilarAt R a s b t) :
    SimilarAt R (skip (n + 1) a) s (skip (n + 1) b) t := by
  induction h generalizing n with
  | done h => exact .done h
  | @item _ _ _ s t h hr ih =>
    rw [skip, skip]
    cases n with
    | zero =>
      rw [skip, skip]
      exact hr s t h
    | succ n => exact ih s t h n
  | readLeft _ ih => exact .readLeft (ih n)
  | readRight _ ih => exact .readRight (ih n)
  | writeLeft _ ih => exact .writeLeft (ih n)
  | writeRight _ ih => exact .writeRight (ih n)

/-- Skipping any number leaves the same items. -/
theorem similar_skip (n : Nat) (h : Similar R a b) : Similar R (skip n a) (skip n b) := by
  cases n with
  | zero =>
    rw [skip, skip]
    exact h
  | succ n => exact fun s t hR => similarAt_skip_succ n (h s t hR)

/-- Distinct values are the same. -/
theorem similarAt_distinct [Keyed γ] (key : α → γ) (seen : KeySet γ) (h : SimilarAt R a s b t) :
    SimilarAt R (distinct key seen a) s (distinct key seen b) t := by
  induction h generalizing seen with
  | done h => exact .done h
  | @item x _ _ s t h _ ih =>
    cases x with
    | error e => exact .item h fun s t h => ih s t h seen
    | ok x =>
      rw [distinct, distinct]
      split
      · exact ih s t h seen
      · exact .item h fun s t h => ih s t h _
  | readLeft _ ih => exact .readLeft (ih seen)
  | readRight _ ih => exact .readRight (ih seen)
  | writeLeft _ ih => exact .writeLeft (ih seen)
  | writeRight _ ih => exact .writeRight (ih seen)

/-- Pieces of a buffer are the same. -/
theorem similarAt_buffer (size count : Nat) (held : List α) (h : SimilarAt R a s b t) :
    SimilarAt R (buffer size count held a) s (buffer size count held b) t := by
  induction h generalizing count held with
  | done h =>
    rw [buffer]
    split
    · exact .done h
    · exact .item h fun _ _ h => .done h
  | @item x _ _ s t h _ ih =>
    cases x with
    | error e => exact .item h fun s t h => ih s t h 0 []
    | ok x =>
      rw [buffer, buffer]
      split
      · exact .item h fun s t h => ih s t h 0 []
      · exact ih s t h _ _
  | readLeft _ ih => exact .readLeft (ih count held)
  | readRight _ ih => exact .readRight (ih count held)
  | writeLeft _ ih => exact .writeLeft (ih count held)
  | writeRight _ ih => exact .writeRight (ih count held)

/-- The gathered list is the same. -/
theorem similarAt_gather (h : SimilarAt R a s b t) : SimilarAt R (gather a) s (gather b) t :=
  similarAt_map _ (similarAt_reduce _ _ h)

/-- With a value for the empty stream the items are the same. -/
theorem similarAt_defaultIfEmpty (value : α) (h : SimilarAt R a s b t) :
    SimilarAt R (defaultIfEmpty value a) s (defaultIfEmpty value b) t := by
  induction h with
  | done h => exact .item h fun _ _ h => .done h
  | item h hr _ => exact .item h hr
  | readLeft _ ih => exact .readLeft ih
  | readRight _ ih => exact .readRight ih
  | writeLeft _ ih => exact .writeLeft ih
  | writeRight _ ih => exact .writeRight ih

/-- With a handler they are the same if what it does is. -/
theorem similarAt_recover {f g : ε → Stage σ ε α} (hf : ∀ e, Similar R (f e) (g e))
    (h : SimilarAt R a s b t) : SimilarAt R (recover f a) s (recover g b) t := by
  induction h with
  | done h => exact .done h
  | @item x _ _ s t h hr ih =>
    cases x with
    | error e => exact (hf e s t h).append fun s t h => (hr s t h).settle
    | ok x => exact .item h ih
  | readLeft _ ih => exact .readLeft ih
  | readRight _ ih => exact .readRight ih
  | writeLeft _ ih => exact .writeLeft ih
  | writeRight _ ih => exact .writeRight ih

/-- A peek has the same items if it has them for every similar stream. -/
theorem similarAt_peek {f g : Option α → Stage σ ε α → Stage σ ε β}
    (hf : ∀ o a b, Similar R a b → Similar R (f o a) (g o b)) (h : SimilarAt R a s b t) :
    SimilarAt R (peek f a) s (peek g b) t := by
  induction h with
  | done h => exact hf none _ _ .done _ _ h
  | @item x _ _ s t h hr _ =>
    cases x with
    | error e => exact Similar.fail e s t h
    | ok x => exact hf (some x) _ _ (.item _ hr) s t h
  | readLeft _ ih => exact .readLeft ih
  | readRight _ ih => exact .readRight ih
  | writeLeft _ ih => exact .writeLeft ih
  | writeRight _ ih => exact .writeRight ih

/-- Going on with similar rounds gives similar rounds. -/
theorem similarAt_upToRound {f g : Stage σ ε (Option α) → Stage σ ε (Option α)}
    (hf : ∀ a b, Similar R a b → Similar R (f a) (g b)) {a b : Stage σ ε (Option α)}
    (h : SimilarAt R a s b t) : SimilarAt R (upToRound f a) s (upToRound g b) t := by
  induction h with
  | done h => exact .item h (hf _ _ .done)
  | @item x _ _ s t h hr ih =>
    rcases x with e | _ | x
    · exact .item h ih
    · exact .item h (hf _ _ hr)
    · exact .item h ih
  | readLeft _ ih => exact .readLeft ih
  | readRight _ ih => exact .readRight ih
  | writeLeft _ ih => exact .writeLeft ih
  | writeRight _ ih => exact .writeRight ih

/-- Taking turns with similar rounds gives similar rounds. -/
theorem similarAt_takeTurns {rounds rounds' : Stage σ ε (Option α)} (hr : Similar R rounds rounds')
    (h : SimilarAt R a s b t) : SimilarAt R (takeTurns a rounds) s (takeTurns b rounds') t := by
  induction h generalizing rounds rounds' with
  | done h => exact hr _ _ h
  | item h _ ih =>
    refine .item h fun s t h => similarAt_upToRound (fun _ _ hr s t h => ih s t h hr) (hr s t h)
  | readLeft _ ih => exact .readLeft (ih hr)
  | readRight _ ih => exact .readRight (ih hr)
  | writeLeft _ ih => exact .writeLeft (ih hr)
  | writeRight _ ih => exact .writeRight (ih hr)

/-- Merged streams have the same items if they have the same one by one. -/
theorem similar_merge {as bs : List (Stage σ ε α)} (h : List.Forall₂ (Similar R) as bs) :
    Similar R (merge as) (merge bs) := by
  have hr : Similar R (as.foldr takeTurns .done) (bs.foldr takeTurns .done) := by
    induction h with
    | nil => exact .done
    | cons h _ ih => exact fun s t hR => similarAt_takeTurns ih (h s t hR)
  exact fun s t hR => similarAt_filterMap id (hr s t hR)

end Streaming

/-! ## Operators that work on whole lists -/

namespace Vectorized

variable {a b : Stage σ ε α}

/-- What is made of a whole list is the same if it is made alike in related states. -/
theorem similar_materialize {f g : List α → σ → Except ε (List β) × σ}
    (hf : ∀ xs s t, R s t → (f xs s).1 = (g xs t).1 ∧ R (f xs s).2 (g xs t).2) (h : Similar R a b) :
    Similar R (materialize f a) (materialize g b) := by
  refine .read fun s t hR => ?_
  obtain ⟨hv, hs⟩ := h.collect hR
  rcases hca : a.collect s with ⟨v, s'⟩
  rcases hcb : b.collect t with ⟨w, t'⟩
  rw [hca, hcb] at hv hs
  obtain rfl : v = w := hv
  cases v with
  | error e => exact .writeLeft (.writeRight (Similar.fail e _ _ hs))
  | ok xs =>
    obtain ⟨hr, hu⟩ := hf xs s' t' hs
    dsimp only
    rw [hr]
    exact .writeLeft (.writeRight (Similar.ofExcept _ _ _ hu))

/-- What a function makes of the same whole list is the same. -/
theorem similar_onList (f : List α → List β) (h : Similar R a b) : Similar R (onList f a) (onList f b) :=
  similar_materialize (fun _ _ _ hR => ⟨rfl, hR⟩) h

/-- On whole lists, mapping with a function that may fail keeps the items the same. -/
theorem similar_tryMap (f : α → Except ε β) (h : Similar R a b) : Similar R (tryMap f a) (tryMap f b) :=
  similar_materialize (fun _ _ _ hR => ⟨rfl, hR⟩) h

/-- Going through a list in related states gives the same, and related states. -/
theorem filterMapOnto_similar {f g : α → σ → Except ε (Option β) × σ}
    (hf : ∀ x s t, R s t → (f x s).1 = (g x t).1 ∧ R (f x s).2 (g x t).2) (found : List β) (xs : List α)
    (hR : R s t) :
    (filterMapOnto f found xs s).1 = (filterMapOnto g found xs t).1 ∧
      R (filterMapOnto f found xs s).2 (filterMapOnto g found xs t).2 := by
  induction xs generalizing found s t with
  | nil => exact ⟨rfl, hR⟩
  | cons x xs ih =>
    obtain ⟨hv, hs⟩ := hf x s t hR
    rw [filterMapOnto, filterMapOnto]
    rcases hfx : f x s with ⟨v, u⟩
    rcases hgx : g x t with ⟨w, u'⟩
    rw [hfx, hgx] at hv hs
    obtain rfl : v = w := hv
    rcases v with e | _ | y
    · exact ⟨rfl, hs⟩
    · exact ih found hs
    · exact ih (y :: found) hs

/-- Collecting similar stages for the values of a list gives the same, and related states. -/
theorem collectEach_similar {f : α → Stage σ ε β} {g : γ → Stage σ ε β} {xs : List α} {ys : List γ}
    (h : List.Forall₂ (fun x y => Similar R (f x) (g y)) xs ys) (hR : R s t) :
    (collectEach f xs s).1 = (collectEach g ys t).1 ∧ R (collectEach f xs s).2 (collectEach g ys t).2 := by
  induction h generalizing s t with
  | nil => exact ⟨rfl, hR⟩
  | @cons x y xs ys hxy _ ih =>
    obtain ⟨hv, hs⟩ := hxy.collect hR
    rw [collectEach_cons, collectEach_cons]
    rcases hfx : (f x).collect s with ⟨v, u⟩
    rcases hgy : (g y).collect t with ⟨w, u'⟩
    rw [hfx, hgy] at hv hs
    obtain rfl : v = w := hv
    cases v with
    | error e => exact ⟨rfl, hs⟩
    | ok ys =>
      obtain ⟨hr, hu⟩ := ih hs
      dsimp only
      rw [hr]
      exact ⟨rfl, hu⟩

/-- On whole lists, merging similar stages keeps the items the same. -/
theorem similar_mergeMap {f g : α → Stage σ ε β} (hf : ∀ x, Similar R (f x) (g x)) (h : Similar R a b) :
    Similar R (mergeMap f a) (mergeMap g b) :=
  similar_materialize (fun _ _ _ hR => collectEach_similar (List.forall₂_same.2 fun x _ => hf x) hR) h

/-- On whole lists, a handler keeps the items the same if what it goes on with is the same. -/
theorem similar_recover {f g : ε → Stage σ ε α} (hf : ∀ e, Similar R (f e) (g e)) (h : Similar R a b) :
    Similar R (recover f a) (recover g b) := by
  refine .read fun s t hR => ?_
  obtain ⟨hv, hs⟩ := h.collect hR
  rcases hca : a.collect s with ⟨v, s'⟩
  rcases hcb : b.collect t with ⟨w, t'⟩
  rw [hca, hcb] at hv hs
  obtain rfl : v = w := hv
  cases v with
  | ok xs => exact .writeLeft (.writeRight (Similar.ofList xs _ _ hs))
  | error e =>
    obtain ⟨hr, hu⟩ := (hf e).collect hs
    dsimp only
    rw [hr]
    exact .writeLeft (.writeRight (Similar.ofExcept _ _ _ hu))

/-- On whole lists, a peek keeps the items the same if what it goes on with is the same. -/
theorem similar_peek {f g : Option α → Stage σ ε α → Stage σ ε β}
    (hf : ∀ o a b, Similar R a b → Similar R (f o a) (g o b)) (h : Similar R a b) :
    Similar R (peek f a) (peek g b) :=
  similar_materialize (fun xs _ _ hR => (hf xs.head? _ _ (.ofList xs)).collect hR) h

/-- On whole lists, putting similar stages together keeps the items the same. -/
theorem similar_merge {as bs : List (Stage σ ε α)} (h : List.Forall₂ (Similar R) as bs) :
    Similar R (merge as) (merge bs) := by
  refine .read fun s t hR => ?_
  obtain ⟨hv, hs⟩ := collectEach_similar (f := id) (g := id) h hR
  dsimp only
  rw [hv]
  exact .writeLeft (.writeRight (Similar.ofExcept _ _ _ hs))

end Vectorized

end Stage

/-! ## Operators of an engine -/

namespace Engine

open Stage

variable {σ ε α β γ : Type} {R : σ → σ → Prop} {a b : Stage σ ε α} (g : Engine)

/-- On either engine, mapping keeps the items the same. -/
theorem similar_map (f : α → β) (h : Similar R a b) : Similar R (g.map f a) (g.map f b) := by
  cases g with
  | streaming => exact fun s t hR => Streaming.similarAt_map f (h s t hR)
  | vectorized => exact Vectorized.similar_onList _ h

/-- On either engine, mapping with a function that may fail keeps the items the same. -/
theorem similar_tryMap (f : α → Except ε β) (h : Similar R a b) :
    Similar R (g.tryMap f a) (g.tryMap f b) := by
  cases g with
  | streaming => exact fun s t hR => Streaming.similarAt_tryMap f (h s t hR)
  | vectorized => exact Vectorized.similar_tryMap f h

/-- On either engine, leaving values out keeps the items the same. -/
theorem similar_filterMap (f : α → Option β) (h : Similar R a b) :
    Similar R (g.filterMap f a) (g.filterMap f b) := by
  cases g with
  | streaming => exact fun s t hR => Streaming.similarAt_filterMap f (h s t hR)
  | vectorized => exact Vectorized.similar_onList _ h

/-- On either engine, a filter keeps the items the same. -/
theorem similar_filter (p : α → Bool) (h : Similar R a b) : Similar R (g.filter p a) (g.filter p b) :=
  g.similar_filterMap _ h

/-- A function that reads the state may be used if it does the same in related states. -/
theorem similar_filterMapWithState {f k : α → σ → Except ε (Option β) × σ}
    (hf : ∀ x s t, R s t → (f x s).1 = (k x t).1 ∧ R (f x s).2 (k x t).2) (h : Similar R a b) :
    Similar R (g.filterMapWithState f a) (g.filterMapWithState k b) := by
  cases g with
  | streaming => exact fun s t hR => Streaming.similarAt_filterMapWithState hf (h s t hR)
  | vectorized =>
    exact Vectorized.similar_materialize (fun xs _ _ hR => Vectorized.filterMapOnto_similar hf [] xs hR) h

/-- A function that reads the state and leaves no values out may be used if it does the same in related states. -/
theorem similar_mapWithState {f k : α → σ → β × σ}
    (hf : ∀ x s t, R s t → (f x s).1 = (k x t).1 ∧ R (f x s).2 (k x t).2) (h : Similar R a b) :
    Similar R (g.mapWithState f a) (g.mapWithState k b) := by
  refine g.similar_filterMapWithState (fun x s t hR => ⟨?_, (hf x s t hR).2⟩) h
  have hv := (hf x s t hR).1
  exact congrArg (fun y => Except.ok (some y)) hv

/-- Merging similar stages keeps the items the same. -/
theorem similar_mergeMap {f k : α → Stage σ ε β} (hf : ∀ x, Similar R (f x) (k x)) (h : Similar R a b) :
    Similar R (g.mergeMap f a) (g.mergeMap k b) := by
  cases g with
  | streaming => exact fun s t hR => Streaming.similarAt_mergeMap hf (h s t hR)
  | vectorized => exact Vectorized.similar_mergeMap hf h

/-- A limit leaves the same items. -/
theorem similar_limit (n : Nat) (h : Similar R a b) : Similar R (g.limit n a) (g.limit n b) := by
  cases g with
  | streaming => exact Streaming.similar_limit n h
  | vectorized => exact Vectorized.similar_onList _ h

/-- On either engine, skipping keeps the items the same. -/
theorem similar_skip (n : Nat) (h : Similar R a b) : Similar R (g.skip n a) (g.skip n b) := by
  cases g with
  | streaming => exact Streaming.similar_skip n h
  | vectorized => exact Vectorized.similar_onList _ h

/-- Distinct values are the same. -/
theorem similar_distinct [Keyed γ] (key : α → γ) (h : Similar R a b) :
    Similar R (g.distinct key a) (g.distinct key b) := by
  cases g with
  | streaming => exact fun s t hR => Streaming.similarAt_distinct key .empty (h s t hR)
  | vectorized => exact Vectorized.similar_onList _ h

/-- Pieces of a buffer are the same. -/
theorem similar_buffer (size : Nat) (h : Similar R a b) : Similar R (g.buffer size a) (g.buffer size b) := by
  cases g with
  | streaming => exact fun s t hR => Streaming.similarAt_buffer _ 0 [] (h s t hR)
  | vectorized => exact Vectorized.similar_onList _ h

/-- The gathered list is the same. -/
theorem similar_gather (h : Similar R a b) : Similar R (g.gather a) (g.gather b) := by
  cases g with
  | streaming => exact fun s t hR => Streaming.similarAt_gather (h s t hR)
  | vectorized => exact Vectorized.similar_onList _ h

/-- With a value for the empty stage the items are the same. -/
theorem similar_defaultIfEmpty (value : α) (h : Similar R a b) :
    Similar R (g.defaultIfEmpty value a) (g.defaultIfEmpty value b) := by
  cases g with
  | streaming => exact fun s t hR => Streaming.similarAt_defaultIfEmpty value (h s t hR)
  | vectorized => exact Vectorized.similar_onList _ h

/-- With a handler they are the same if what it does is. -/
theorem similar_recover {f k : ε → Stage σ ε α} (hf : ∀ e, Similar R (f e) (k e)) (h : Similar R a b) :
    Similar R (g.recover f a) (g.recover k b) := by
  cases g with
  | streaming => exact fun s t hR => Streaming.similarAt_recover hf (h s t hR)
  | vectorized => exact Vectorized.similar_recover hf h

/-- A peek has the same items if it has them for every similar stage. -/
theorem similar_peek {f k : Option α → Stage σ ε α → Stage σ ε β}
    (hf : ∀ o a b, Similar R a b → Similar R (f o a) (k o b)) (h : Similar R a b) :
    Similar R (g.peek f a) (g.peek k b) := by
  cases g with
  | streaming => exact fun s t hR => Streaming.similarAt_peek hf (h s t hR)
  | vectorized => exact Vectorized.similar_peek hf h

/-- Stages that are put together have the same items if they have the same one by one. -/
theorem similar_merge {as bs : List (Stage σ ε α)} (h : List.Forall₂ (Similar R) as bs) :
    Similar R (g.merge as) (g.merge bs) := by
  cases g with
  | streaming => exact Streaming.similar_merge h
  | vectorized => exact Vectorized.similar_merge h

/-- Rearranging similar stages keeps the items the same. -/
theorem similar_rearrange (f : List α → List β) (h : Similar R a b) :
    Similar R (g.rearrange f a) (g.rearrange f b) :=
  g.similar_mergeMap (fun _ => .ofList _) (g.similar_map f (g.similar_gather h))

end Engine

end SparqlAlgebra

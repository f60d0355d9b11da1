import Mathlib.Data.List.Forall2
import SparqlAlgebra.Stage.Engine

/-!
# Stages that deliver given values

A stage yields a list if every run that starts where an invariant of the state holds keeps the invariant, fails
nowhere and delivers the values of the list in order. Each operator is described by what it yields for inputs
that yield something, in either engine; a merge of stages yields their values in some order.
-/

namespace SparqlAlgebra

namespace Stage

variable {σ ε α β γ : Type} {P : σ → Prop}

/-- Every run within the invariant delivers exactly the values of the list. -/
inductive Yields (P : σ → Prop) : Stage σ ε α → List α → Prop
  | done : Yields P .done []
  | item {x : α} {rest : Stage σ ε α} {xs : List α} :
      Yields P rest xs → Yields P (.item (.ok x) rest) (x :: xs)
  | read {next : σ → Stage σ ε α} {xs : List α} :
      (∀ s, P s → Yields P (next s) xs) → Yields P (.read next) xs
  | write {s : σ} {rest : Stage σ ε α} {xs : List α} :
      P s → Yields P rest xs → Yields P (.write s rest) xs

/-- A stage of given items yields them. -/
theorem Yields.ofList (xs : List α) : Yields P (Stage.ofList xs : Stage σ ε α) xs := by
  induction xs with
  | nil => exact .done
  | cons x xs ih => exact .item (.read fun _ _ => ih)

/-- Collecting such a stage succeeds with its values. -/
theorem Yields.collect {stage : Stage σ ε α} {xs : List α} (h : Yields P stage xs) {s : σ} (hs : P s) :
    ∃ t, P t ∧ stage.collect s = (.ok xs, t) := by
  induction h generalizing s with
  | done => exact ⟨s, hs, rfl⟩
  | @item x rest xs _ ih =>
    obtain ⟨t, ht, he⟩ := ih hs
    refine ⟨t, ht, ?_⟩
    rw [collect_ok, he]
    rfl
  | read _ ih =>
    obtain ⟨t, ht, he⟩ := ih s hs hs
    exact ⟨t, ht, by rw [collect_read, he]⟩
  | @write u _ _ hu _ ih =>
    obtain ⟨t, ht, he⟩ := ih hu
    exact ⟨t, ht, by rw [collect_write, he]⟩

/-- Appended stages yield what both yield, in order. -/
theorem Yields.append {a b : Stage σ ε α} {xs ys : List α} (ha : Yields P a xs) (hb : Yields P b ys) :
    Yields P (a.append b) (xs ++ ys) := by
  induction ha with
  | done => exact hb
  | item _ ih => exact .item ih
  | read _ ih => exact .read ih
  | write hs _ ih => exact .write hs ih

/-- A stage that acts on the state yields what it yields after the act. -/
theorem Yields.act {f : σ → Stage σ ε α × σ} {xs : List α} (h : ∀ s, P s → Yields P (f s).1 xs ∧ P (f s).2) :
    Yields P (Stage.act f) xs :=
  .read fun s hs => .write (h s hs).2 (h s hs).1

/-! ## Operators that work item by item -/

namespace Streaming

/-- Mapping yields the images. -/
theorem yields_map {stage : Stage σ ε α} {xs : List α} (f : α → β) (h : Yields P stage xs) :
    Yields P (map f stage) (xs.map f) := by
  induction h with
  | done => exact .done
  | item _ ih => exact .item ih
  | read _ ih => exact .read ih
  | write hs _ ih => exact .write hs ih

/-- Mapping with values left out yields the images of the others. -/
theorem yields_filterMap {stage : Stage σ ε α} {xs : List α} (f : α → Option β) (h : Yields P stage xs) :
    Yields P (filterMap f stage) (xs.filterMap f) := by
  induction h with
  | done => exact .done
  | @item x _ _ _ ih =>
    rw [filterMap, List.filterMap_cons]
    cases f x with
    | none => exact ih
    | some y => exact .item ih
  | read _ ih => exact .read ih
  | write hs _ ih => exact .write hs ih

/-- Mapping over the state yields the images if each of them does not depend on the state and keeps `P`. -/
theorem yields_filterMapWithState {stage : Stage σ ε α} {xs : List α} {f : α → σ → Except ε (Option β) × σ}
    {k : α → Option β} (hf : ∀ x ∈ xs, ∀ s, P s → (f x s).1 = .ok (k x) ∧ P (f x s).2) (h : Yields P stage xs) :
    Yields P (filterMapWithState f stage) (xs.filterMap k) := by
  induction h with
  | done => exact .done
  | @item x _ xs _ ih =>
    have hrest := ih fun y hy => hf y (List.mem_cons_of_mem x hy)
    refine .read fun s hs => ?_
    obtain ⟨hv, ht⟩ := hf x List.mem_cons_self s hs
    rcases hfx : f x s with ⟨v, t⟩
    rw [hfx] at hv ht
    obtain rfl : v = .ok (k x) := hv
    rw [List.filterMap_cons]
    cases k x with
    | none => exact .write ht hrest
    | some y => exact .write ht (.item hrest)
  | read _ ih => exact .read fun s hs => ih s hs hf
  | write hs _ ih => exact .write hs (ih hf)

/-- Merging yields what the single stages yield, one after the other. -/
theorem yields_mergeMap {stage : Stage σ ε α} {xs : List α} {f : α → Stage σ ε β} {g : α → List β}
    (hf : ∀ x ∈ xs, Yields P (f x) (g x)) (h : Yields P stage xs) :
    Yields P (mergeMap f stage) (xs.flatMap g) := by
  induction h with
  | done => exact .done
  | @item x _ xs _ ih =>
    rw [mergeMap, List.flatMap_cons]
    have hx : Yields P (f x) (g x) := hf x List.mem_cons_self
    exact hx.append (ih fun y hy => hf y (List.mem_cons_of_mem _ hy))
  | read _ ih => exact .read fun s hs => ih s hs hf
  | write hs _ ih => exact .write hs (ih hf)

/-- A limit yields the first values. -/
theorem yields_limit {stage : Stage σ ε α} {xs : List α} (n : Nat) (h : Yields P stage xs) :
    Yields P (limit n stage) (xs.take n) := by
  induction h generalizing n with
  | done => cases n <;> exact .done
  | item _ ih =>
    cases n with
    | zero => exact .done
    | succ n => exact .item (ih n)
  | read hr ih =>
    cases n with
    | zero => exact .done
    | succ n => exact .read fun s hs => ih s hs (n + 1)
  | write hs _ ih =>
    cases n with
    | zero => exact .done
    | succ n => exact .write hs (ih (n + 1))

/-- Only the first value of each key is yielded. -/
theorem yields_distinct [Keyed γ] {stage : Stage σ ε α} {xs : List α} (key : α → γ) (seen : KeySet γ)
    (h : Yields P stage xs) : Yields P (distinct key seen stage) (KeySet.firstsFrom key seen [] xs) := by
  induction h generalizing seen with
  | done => exact .done
  | @item x _ xs _ ih =>
    rw [distinct, KeySet.firstsFrom]
    split
    · exact ih seen
    · rw [KeySet.firstsFrom_eq]
      exact .item (ih _)
  | read _ ih => exact .read fun s hs => ih s hs seen
  | write hs _ ih => exact .write hs (ih seen)

/-- A reduction yields one value, the fold of what it reduces. -/
theorem yields_reduce {stage : Stage σ ε α} {xs : List α} (f : β → α → β) (acc : β)
    (h : Yields P stage xs) : Yields P (reduce f acc stage) [xs.foldl f acc] := by
  induction h generalizing acc with
  | done => exact .item .done
  | item _ ih => exact ih _
  | read _ ih => exact .read fun s hs => ih s hs acc
  | write hs _ ih => exact .write hs (ih acc)

/-- Gathering yields the one list of the values. -/
theorem yields_gather {stage : Stage σ ε α} {xs : List α} (h : Yields P stage xs) :
    Yields P (gather stage) [xs] := by
  have hr := yields_map List.reverse (yields_reduce (fun acc x => x :: acc) [] h)
  simpa [gather] using hr

/-- The runs that buffering makes of a list. -/
def runs (size : Nat) : Nat → List α → List α → List (List α)
  | _, held, [] => if held.isEmpty then [] else [held.reverse]
  | count, held, x :: xs =>
    if count + 1 ≥ size then (x :: held).reverse :: runs size 0 [] xs
    else runs size (count + 1) (x :: held) xs

/-- Runs put together are the held values and the rest. -/
theorem flatten_runs (size count : Nat) (held xs : List α) :
    (runs size count held xs).flatten = held.reverse ++ xs := by
  induction xs generalizing count held with
  | nil =>
    unfold runs
    split
    · rename_i hh
      rw [List.isEmpty_iff.1 hh]
      rfl
    · simp
  | cons x xs ih =>
    unfold runs
    split
    · simp [ih]
    · rw [ih, List.reverse_cons, List.append_assoc, List.singleton_append]

/-- No run is longer than the size of the buffer. -/
theorem length_le_of_mem_runs {size count : Nat} {held xs run : List α} (hc : held.length = count)
    (hs : count < size) (h : run ∈ runs size count held xs) : run.length ≤ size := by
  induction xs generalizing count held with
  | nil =>
    unfold runs at h
    split at h
    · simp at h
    · rw [List.mem_singleton.1 h, List.length_reverse]
      omega
  | cons x xs ih =>
    unfold runs at h
    split at h
    · rcases List.mem_cons.1 h with rfl | h
      · rw [List.length_reverse, List.length_cons]
        omega
      · have hz : 0 < size := by omega
        exact ih List.length_nil hz h
    · exact ih (by rw [List.length_cons, hc]) (by omega) h

/-- A buffer yields the runs. -/
theorem yields_buffer {stage : Stage σ ε α} {xs : List α} (size count : Nat) (held : List α)
    (h : Yields P stage xs) : Yields P (buffer size count held stage) (runs size count held xs) := by
  induction h generalizing count held with
  | done =>
    rw [buffer, runs]
    split
    · exact .done
    · exact .item .done
  | item _ ih =>
    rw [buffer, runs]
    split
    · exact .item (ih 0 [])
    · exact ih _ _
  | read _ ih => exact .read fun s hs => ih s hs count held
  | write hs _ ih => exact .write hs (ih count held)

/-- The list of rounds with an element put at the end of the first one, and the others changed. -/
def closeRound (next : List (Option α) → List (Option α)) : List (Option α) → List (Option α)
  | [] => none :: next []
  | none :: rest => none :: next rest
  | some x :: rest => some x :: closeRound next rest

/-- One element of a list in front of each round. -/
def turns : List α → List (Option α) → List (Option α)
  | [], rounds => rounds
  | x :: xs, rounds => some x :: closeRound (turns xs) rounds

/-- The rounds of further stages, closed by the round of one more, hold the values of all of them. -/
theorem filterMap_closeRound {next : List (Option α) → List (Option α)} {xs : List α}
    (hn : ∀ rounds, ((next rounds).filterMap id).Perm (xs ++ rounds.filterMap id))
    (rounds : List (Option α)) :
    ((closeRound next rounds).filterMap id).Perm (xs ++ rounds.filterMap id) := by
  induction rounds with
  | nil => exact hn []
  | cons r rounds ih =>
    cases r with
    | none => exact hn rounds
    | some x =>
      exact (ih.cons x).trans List.perm_middle.symm

/-- Turns of one stage with the rounds of others hold the values of both, in some order. -/
theorem filterMap_turns (xs : List α) (rounds : List (Option α)) :
    ((turns xs rounds).filterMap id).Perm (xs ++ rounds.filterMap id) := by
  induction xs generalizing rounds with
  | nil => exact .refl _
  | cons x xs ih =>
    exact (filterMap_closeRound ih rounds).cons x

/-- Going on to the end of a round yields the closed round. -/
theorem yields_upToRound {next : Stage σ ε (Option α) → Stage σ ε (Option α)}
    {next' : List (Option α) → List (Option α)}
    (hn : ∀ {stage rounds}, Yields P stage rounds → Yields P (next stage) (next' rounds))
    {stage : Stage σ ε (Option α)} {rounds : List (Option α)} (h : Yields P stage rounds) :
    Yields P (upToRound next stage) (closeRound next' rounds) := by
  induction h with
  | done => exact .item (hn .done)
  | @item x _ _ hr ih =>
    cases x with
    | none => exact .item (hn hr)
    | some x => exact .item ih
  | read _ ih => exact .read ih
  | write hs _ ih => exact .write hs ih

/-- Taking turns yields the turns. -/
theorem yields_takeTurns {stage : Stage σ ε α} {xs : List α} (h : Yields P stage xs)
    {stages : Stage σ ε (Option α)} {rounds : List (Option α)} (hr : Yields P stages rounds) :
    Yields P (takeTurns stage stages) (turns xs rounds) := by
  induction h generalizing stages rounds with
  | done => exact hr
  | item _ ih => exact .item (yields_upToRound (fun h => ih h) hr)
  | read _ ih => exact .read fun s hs => ih s hs hr
  | write hs _ ih => exact .write hs (ih hr)

/-- Stages that take turns deliver all their values, in some order. -/
theorem yields_merge {stages : List (Stage σ ε α)} {xss : List (List α)}
    (h : List.Forall₂ (Yields P) stages xss) :
    ∃ ys, Yields P (merge stages) ys ∧ ys.Perm xss.flatten := by
  have hr : Yields P (stages.foldr takeTurns .done) (xss.foldr turns []) := by
    induction h with
    | nil => exact .done
    | cons h _ ih => exact yields_takeTurns h ih
  refine ⟨_, yields_filterMap id hr, ?_⟩
  clear h hr
  induction xss with
  | nil => exact .refl _
  | cons xs xss ih => exact (filterMap_turns xs _).trans (List.Perm.append_left xs ih)

end Streaming

/-! ## Operators that work on whole lists -/

namespace Vectorized

/-- A materialized stage yields what the function finds in the whole list. -/
theorem yields_materialize {f : List α → σ → Except ε (List β) × σ} {stage : Stage σ ε α} {xs : List α}
    {ys : List β} (h : Yields P stage xs) (hf : ∀ s, P s → ∃ t, P t ∧ f xs s = (.ok ys, t)) :
    Yields P (materialize f stage) ys := by
  refine .read fun s hs => ?_
  obtain ⟨t, ht, he⟩ := h.collect hs
  obtain ⟨u, hu, hy⟩ := hf t ht
  rw [he]
  dsimp only
  rw [hy]
  exact .write hu (.ofList ys)

/-- A function of the whole list is applied to the values. -/
theorem yields_onList {stage : Stage σ ε α} {xs : List α} (f : List α → List β) (h : Yields P stage xs) :
    Yields P (onList f stage) (f xs) :=
  yields_materialize h fun s hs => ⟨s, hs, rfl⟩

/-- On whole lists, a mapping over the state with values left out finds the images of the others. -/
theorem filterMapOnto_of_ok {f : α → σ → Except ε (Option β) × σ} {k : α → Option β}
    {xs : List α} (hf : ∀ x ∈ xs, ∀ s, P s → (f x s).1 = .ok (k x) ∧ P (f x s).2) (found : List β) {s : σ} (hs : P s) :
    ∃ t, P t ∧ filterMapOnto f found xs s = (.ok (found.reverse ++ xs.filterMap k), t) := by
  induction xs generalizing found s with
  | nil => exact ⟨s, hs, by simp [filterMapOnto]⟩
  | cons x xs ih =>
    have hrest := fun found {s} => ih (fun y hy => hf y (List.mem_cons_of_mem x hy)) found (s := s)
    obtain ⟨hv, ht⟩ := hf x List.mem_cons_self s hs
    rw [filterMapOnto, List.filterMap_cons]
    rcases hfx : f x s with ⟨v, t⟩
    rw [hfx] at hv ht
    obtain rfl : v = .ok (k x) := hv
    cases k x with
    | none => exact hrest found ht
    | some y =>
      obtain ⟨u, hu, he⟩ := hrest (y :: found) ht
      refine ⟨u, hu, he.trans ?_⟩
      rw [List.reverse_cons, List.append_assoc, List.singleton_append]

/-- Collecting a stage for every item finds what they yield, one after the other. -/
theorem collectEach_eq {f : α → Stage σ ε β} {xs : List α} {yss : List (List β)}
    (h : List.Forall₂ (fun x ys => Yields P (f x) ys) xs yss) {s : σ} (hs : P s) :
    ∃ t, P t ∧ collectEach f xs s = (.ok yss.flatten, t) := by
  induction h generalizing s with
  | nil => exact ⟨s, hs, rfl⟩
  | cons hx _ ih =>
    obtain ⟨t, ht, he⟩ := hx.collect hs
    obtain ⟨u, hu, hr⟩ := ih ht
    refine ⟨u, hu, ?_⟩
    rw [collectEach_cons, he]
    dsimp only
    rw [hr]
    rfl

/-- On whole lists, merging yields what the single stages yield. -/
theorem yields_mergeMap {f : α → Stage σ ε β} {g : α → List β} {stage : Stage σ ε α} {xs : List α}
    (hf : ∀ x ∈ xs, Yields P (f x) (g x)) (h : Yields P stage xs) :
    Yields P (mergeMap f stage) (xs.flatMap g) := by
  have hx : List.Forall₂ (fun x ys => Yields P (f x) ys) xs (xs.map g) := by
    rw [List.forall₂_map_right_iff, List.forall₂_same]
    exact hf
  rw [List.flatMap_def]
  exact yields_materialize h fun _ hs => collectEach_eq hx hs

/-- Chunks put together are the list they were cut from. -/
theorem flatten_chunksOnto {size fuel : Nat} (hs : 0 < size) (found : List (List α)) (xs : List α)
    (hf : xs.length ≤ fuel) : (chunksOnto size found fuel xs).flatten = found.reverse.flatten ++ xs := by
  induction fuel generalizing found xs with
  | zero =>
    have hx : xs = [] := List.length_eq_zero_iff.1 (by omega)
    simp [chunksOnto, hx]
  | succ fuel ih =>
    unfold chunksOnto
    split
    · rename_i hx
      rw [List.isEmpty_iff.1 hx, List.append_nil]
    · rename_i hx
      have hp : 0 < xs.length := List.length_pos_iff.2 fun he => hx (List.isEmpty_iff.2 he)
      have hd : (xs.drop size).length ≤ fuel := by
        rw [List.length_drop]
        omega
      rw [ih _ _ hd]
      simp

/-- No chunk is longer than the size of the chunks. -/
theorem length_le_of_mem_chunksOnto {size fuel : Nat} {found : List (List α)} {xs run : List α}
    (hf : ∀ r ∈ found, r.length ≤ size) (h : run ∈ chunksOnto size found fuel xs) : run.length ≤ size := by
  induction fuel generalizing found xs with
  | zero => exact hf run (List.mem_reverse.1 h)
  | succ fuel ih =>
    unfold chunksOnto at h
    split at h
    · exact hf run (List.mem_reverse.1 h)
    · refine ih ?_ h
      intro r hr
      rcases List.mem_cons.1 hr with rfl | hr
      · rw [List.length_take]
        omega
      · exact hf r hr

/-- Merged stages yield what they yield, one after the other. -/
theorem yields_merge {stages : List (Stage σ ε α)} {xss : List (List α)}
    (h : List.Forall₂ (Yields P) stages xss) : Yields P (merge stages) xss.flatten := by
  refine .read fun s hs => ?_
  obtain ⟨t, ht, he⟩ := collectEach_eq (f := id) h hs
  rw [he]
  exact .write ht (.ofList _)

end Vectorized

end Stage

/-! ## Operators of an engine -/

namespace Engine

open Stage

variable {σ ε α β γ : Type} {P : σ → Prop} {stage : Stage σ ε α} {xs : List α} (g : Engine)

/-- On either engine, mapping yields the images. -/
theorem yields_map (f : α → β) (h : Yields P stage xs) : Yields P (g.map f stage) (xs.map f) := by
  cases g with
  | streaming => exact Streaming.yields_map f h
  | vectorized => exact Vectorized.yields_onList _ h

/-- On either engine, a mapping with values left out yields the images of the others. -/
theorem yields_filterMap (f : α → Option β) (h : Yields P stage xs) :
    Yields P (g.filterMap f stage) (xs.filterMap f) := by
  cases g with
  | streaming => exact Streaming.yields_filterMap f h
  | vectorized => exact Vectorized.yields_onList _ h

/-- On either engine, a mapping over the state yields the images if they do not depend on the state. -/
theorem yields_mapWithState {f : α → σ → β × σ} {k : α → β}
    (hf : ∀ x ∈ xs, ∀ s, P s → (f x s).1 = k x ∧ P (f x s).2) (h : Yields P stage xs) :
    Yields P (g.mapWithState f stage) (xs.map k) := by
  rw [← List.filterMap_eq_map]
  have hok : ∀ x ∈ xs, ∀ s, P s →
      Except.ok (some (f x s).1) = (.ok (some (k x)) : Except ε (Option β)) ∧ P (f x s).2 := by
    intro x hx s hs
    obtain ⟨hv, ht⟩ := hf x hx s hs
    exact ⟨by rw [hv], ht⟩
  cases g with
  | streaming => exact Streaming.yields_filterMapWithState hok h
  | vectorized =>
    exact Vectorized.yields_materialize h fun s hs => Vectorized.filterMapOnto_of_ok hok [] hs

/-- On either engine, merging yields what the single stages yield. -/
theorem yields_mergeMap {f : α → Stage σ ε β} {k : α → List β} (hf : ∀ x ∈ xs, Yields P (f x) (k x))
    (h : Yields P stage xs) : Yields P (g.mergeMap f stage) (xs.flatMap k) := by
  cases g with
  | streaming => exact Streaming.yields_mergeMap hf h
  | vectorized => exact Vectorized.yields_mergeMap hf h

/-- On either engine, a limit yields the first values. -/
theorem yields_limit (n : Nat) (h : Yields P stage xs) : Yields P (g.limit n stage) (xs.take n) := by
  cases g with
  | streaming => exact Streaming.yields_limit n h
  | vectorized => exact Vectorized.yields_onList _ h

/-- On either engine, the first value of each key is yielded. -/
theorem yields_distinct [Keyed γ] (key : α → γ) (h : Yields P stage xs) :
    Yields P (g.distinct key stage) (KeySet.firstsOn key xs) := by
  cases g with
  | streaming => exact Streaming.yields_distinct key .empty h
  | vectorized => exact Vectorized.yields_onList _ h

/-- On either engine, gathering yields the one list of the values. -/
theorem yields_gather (h : Yields P stage xs) : Yields P (g.gather stage) [xs] := by
  cases g with
  | streaming => exact Streaming.yields_gather h
  | vectorized => exact Vectorized.yields_onList _ h

/-- The runs of a buffer make up the list, and none is longer than the size, at least one. -/
theorem yields_buffer (size : Nat) (h : Yields P stage xs) :
    ∃ runs, Yields P (g.buffer size stage) runs ∧ runs.flatten = xs ∧
      ∀ run ∈ runs, run.length ≤ max size 1 := by
  have hp : 0 < max size 1 := by omega
  cases g with
  | streaming =>
    refine ⟨_, Streaming.yields_buffer (max size 1) 0 [] h, Streaming.flatten_runs _ _ _ _, ?_⟩
    intro run hr
    exact Streaming.length_le_of_mem_runs List.length_nil hp hr
  | vectorized =>
    refine ⟨_, Vectorized.yields_onList _ h, ?_, ?_⟩
    · exact Vectorized.flatten_chunksOnto hp [] xs (Nat.le_refl _)
    · intro run hr
      exact Vectorized.length_le_of_mem_chunksOnto (by simp) hr

/-- Merged stages deliver all their values, in some order. -/
theorem yields_merge {stages : List (Stage σ ε α)} {xss : List (List α)}
    (h : List.Forall₂ (Yields P) stages xss) :
    ∃ ys, Yields P (g.merge stages) ys ∧ ys.Perm xss.flatten := by
  cases g with
  | streaming => exact Streaming.yields_merge h
  | vectorized => exact ⟨_, Vectorized.yields_merge h, .refl _⟩

end Engine

end SparqlAlgebra

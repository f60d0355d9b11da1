import SparqlAlgebra.Proofs.Stage.Yields

/-!
# Stages that deliver values or fail

A stage fails if every run that starts where an invariant of the state holds comes to a failure. Item by item a failure
travels on among the other items, on whole lists it takes the place of them; either way it is still there at the end.
So each operator that looks at all of its input is described by one optional list, which is the same for both engines.
-/

namespace SparqlAlgebra

namespace Stage

variable {σ ε α β γ : Type} {P : σ → Prop}

/-- Every run within the invariant comes to a failure. -/
inductive Fails (P : σ → Prop) : Stage σ ε α → Prop
  | failure (e : ε) (rest : Stage σ ε α) : Fails P (.item (.error e) rest)
  | item {x : α} {rest : Stage σ ε α} : Fails P rest → Fails P (.item (.ok x) rest)
  | read {next : σ → Stage σ ε α} : (∀ s, P s → Fails P (next s)) → Fails P (.read next)
  | write {s : σ} {rest : Stage σ ε α} : P s → Fails P rest → Fails P (.write s rest)

/-- The stage delivers a list, or it fails if there is none. -/
def Delivers (P : σ → Prop) (stage : Stage σ ε α) : Option (List α) → Prop
  | some xs => Yields P stage xs
  | none => Fails P stage

/-- Collecting a stage that fails gives a failure. -/
theorem Fails.collect {stage : Stage σ ε α} (h : Fails P stage) {s : σ} (hs : P s) :
    ∃ e t, P t ∧ stage.collect s = (.error e, t) := by
  induction h generalizing s with
  | failure e rest => exact ⟨e, s, hs, rfl⟩
  | item _ ih =>
    obtain ⟨e, t, ht, he⟩ := ih hs
    refine ⟨e, t, ht, ?_⟩
    rw [collect_ok, he]
    rfl
  | read _ ih => exact ih s hs hs
  | write hu _ ih => exact ih hu

/-- Collecting gives the list, or a failure if there is none. -/
theorem Delivers.collect {stage : Stage σ ε α} {v : Option (List α)} (h : Delivers P stage v) {s : σ} (hs : P s) :
    P (stage.collect s).2 ∧ (stage.collect s).1.toOption = v := by
  cases v with
  | some xs =>
    obtain ⟨t, ht, he⟩ := Yields.collect h hs
    rw [he]
    exact ⟨ht, rfl⟩
  | none =>
    obtain ⟨e, t, ht, he⟩ := Fails.collect h hs
    rw [he]
    exact ⟨ht, rfl⟩

section Delivers

variable {v : Option (List α)}

/-- One more value comes in front of what is delivered. -/
theorem Delivers.item (x : α) {rest : Stage σ ε α} (h : Delivers P rest v) :
    Delivers P (.item (.ok x) rest) (v.map (x :: ·)) := by
  cases v with
  | some xs => exact Yields.item h
  | none => exact Fails.item h

/-- What is delivered for every store is delivered after reading it. -/
theorem Delivers.read {next : σ → Stage σ ε α} (h : ∀ s, P s → Delivers P (next s) v) :
    Delivers P (.read next) v := by
  cases v with
  | some xs => exact Yields.read h
  | none => exact Fails.read h

/-- What is delivered for every store is delivered after writing one. -/
theorem Delivers.write {s : σ} {rest : Stage σ ε α} (hs : P s) (h : Delivers P rest v) :
    Delivers P (.write s rest) v := by
  cases v with
  | some xs => exact Yields.write hs h
  | none => exact Fails.write hs h

/-- What a stage delivers comes in front of what follows. -/
theorem Delivers.append {a b : Stage σ ε α} {xs : List α} (ha : Yields P a xs) (hb : Delivers P b v) :
    Delivers P (a.append b) (v.map (xs ++ ·)) := by
  induction ha with
  | done => simpa [Stage.append] using hb
  | @item x _ xs _ ih =>
    have hrest := ih.item x
    rwa [Option.map_map] at hrest
  | read _ ih => exact .read ih
  | write hs _ ih => exact .write hs ih

/-- A result that may be a failure becomes a stage. -/
theorem Delivers.ofExcept (r : Except ε (List α)) : Delivers P (Stage.ofExcept r : Stage σ ε α) r.toOption := by
  cases r with
  | ok xs => exact Yields.ofList xs
  | error e => exact Fails.failure e .done

end Delivers

/-- A failure of the first part of a stage is one of the whole. -/
theorem Fails.append {a : Stage σ ε α} (ha : Fails P a) (b : Stage σ ε α) : Fails P (a.append b) := by
  induction ha with
  | failure e rest => exact .failure e _
  | item _ ih => exact .item ih
  | read _ ih => exact .read ih
  | write hs _ ih => exact .write hs ih

/-- The lists that go with the values of a list, one after another, if there is one for each. -/
def joined (w : α → Option (List β)) (xs : List α) : Option (List β) := (xs.mapM w).map List.flatten

/-- The lists of the values are put one after the other, if all are there. -/
theorem joined_cons (w : α → Option (List β)) (x : α) (xs : List α) :
    joined w (x :: xs) = (w x).bind fun ys => (joined w xs).map (ys ++ ·) := by
  rw [joined, joined, List.mapM_cons]
  cases w x with
  | none => rfl
  | some ys => cases xs.mapM w <;> rfl

/-- All lists of the values are there if each of them is. -/
theorem isSome_joined {w : α → Option (List β)} {xs : List α} :
    (joined w xs).isSome ↔ ∀ x ∈ xs, (w x).isSome := by
  induction xs with
  | nil => simp [joined]
  | cons x xs ih =>
    rw [joined_cons, List.forall_mem_cons, ← ih]
    cases w x with
    | none => simp
    | some ys => simp

/-- A function that never fails has a value for each item of a list. -/
theorem isSome_mapM {f : α → Except ε β} (hf : ∀ x, ∃ y, f x = .ok y) (xs : List α) :
    (xs.mapM f).toOption.isSome := by
  induction xs with
  | nil => rfl
  | cons x xs ih =>
    obtain ⟨y, hy⟩ := hf x
    rw [List.mapM_cons, hy]
    cases hr : xs.mapM f with
    | error e =>
      rw [hr] at ih
      exact ih
    | ok ys => rfl

/-! ## Operators that work item by item -/

namespace Streaming

variable {stage : Stage σ ε α} {xs : List α}

/-- Mapping a stream hides no failure. -/
theorem fails_map (f : α → β) (h : Fails P stage) : Fails P (map f stage) := by
  induction h with
  | failure e rest => exact .failure e _
  | item _ ih => exact .item ih
  | read _ ih => exact .read ih
  | write hs _ ih => exact .write hs ih

/-- Mapping a stream with values left out hides no failure. -/
theorem fails_filterMap (f : α → Option β) (h : Fails P stage) : Fails P (filterMap f stage) := by
  induction h with
  | failure e rest => exact .failure e _
  | @item x _ _ ih =>
    rw [filterMap]
    cases f x with
    | none => exact ih
    | some y => exact .item ih
  | read _ ih => exact .read ih
  | write hs _ ih => exact .write hs ih

/-- Mapping a stream with a function that may fail hides no failure. -/
theorem fails_tryMap (f : α → Except ε β) (h : Fails P stage) : Fails P (tryMap f stage) := by
  induction h with
  | failure e rest => exact .failure e _
  | @item x rest _ ih =>
    rw [tryMap]
    cases f x with
    | error e => exact .failure e _
    | ok y => exact .item ih
  | read _ ih => exact .read ih
  | write hs _ ih => exact .write hs ih

/-- A function that may fail gives all of its results or a failure. -/
theorem delivers_tryMap (f : α → Except ε β) (h : Yields P stage xs) :
    Delivers P (tryMap f stage) (xs.mapM f).toOption := by
  induction h with
  | done => exact Yields.done
  | @item x rest xs _ ih =>
    rw [tryMap, List.mapM_cons]
    cases f x with
    | error e => exact Fails.failure e _
    | ok y =>
      cases hr : xs.mapM f with
      | error e =>
        rw [hr] at ih
        exact Fails.item ih
      | ok ys =>
        rw [hr] at ih
        exact Yields.item ih
  | read _ ih => exact .read ih
  | write hs _ ih => exact .write hs ih

/-- Merging hides no failure of the source if the merged streams deliver or fail. -/
theorem fails_mergeMap {f : α → Stage σ ε β} {w : α → Option (List β)} (hf : ∀ x, Delivers P (f x) (w x))
    (h : Fails P stage) : Fails P (mergeMap f stage) := by
  induction h with
  | failure e rest => exact .failure e _
  | @item x _ _ ih =>
    have hx := hf x
    rw [mergeMap]
    cases hw : w x with
    | none =>
      rw [hw] at hx
      exact Fails.append hx _
    | some ys =>
      rw [hw] at hx
      exact Delivers.append (v := none) hx ih
  | read _ ih => exact .read ih
  | write hs _ ih => exact .write hs ih

/-- Merging streams that deliver lists, or fail, delivers the lists one after the other, or fails. -/
theorem delivers_mergeMap {f : α → Stage σ ε β} {w : α → Option (List β)}
    (hf : ∀ x ∈ xs, Delivers P (f x) (w x)) (h : Yields P stage xs) :
    Delivers P (mergeMap f stage) (joined w xs) := by
  induction h with
  | done => exact Yields.done
  | @item x _ xs _ ih =>
    have hx := hf x List.mem_cons_self
    have hrest := ih fun y hy => hf y (List.mem_cons_of_mem x hy)
    rw [mergeMap, joined_cons]
    cases hw : w x with
    | none =>
      rw [hw] at hx
      exact Fails.append hx _
    | some ys =>
      rw [hw] at hx
      exact Delivers.append hx hrest
  | read _ ih => exact .read fun s hs => ih s hs hf
  | write hs _ ih => exact .write hs (ih hf)

/-- Reducing a stream hides no failure. -/
theorem fails_reduce (f : β → α → β) (acc : β) (h : Fails P stage) : Fails P (reduce f acc stage) := by
  induction h generalizing acc with
  | failure e rest => exact .failure e _
  | item _ ih => exact ih _
  | read _ ih => exact .read fun s hs => ih s hs acc
  | write hs _ ih => exact .write hs (ih acc)

/-- Gathering a stream hides no failure. -/
theorem fails_gather (h : Fails P stage) : Fails P (gather stage) :=
  fails_map List.reverse (fails_reduce _ [] h)

/-- Keeping distinct values hides no failure. -/
theorem fails_distinct [Keyed γ] (key : α → γ) (seen : KeySet γ) (h : Fails P stage) :
    Fails P (distinct key seen stage) := by
  induction h generalizing seen with
  | failure e rest => exact .failure e _
  | item _ ih =>
    rw [distinct]
    split
    · exact ih seen
    · exact .item (ih _)
  | read _ ih => exact .read fun s hs => ih s hs seen
  | write hs _ ih => exact .write hs (ih seen)

/-- Buffering hides no failure. -/
theorem fails_buffer (size count : Nat) (held : List α) (h : Fails P stage) :
    Fails P (buffer size count held stage) := by
  induction h generalizing count held with
  | failure e rest => exact .failure e _
  | item _ ih =>
    rw [buffer]
    split
    · exact .item (ih 0 [])
    · exact ih _ _
  | read _ ih => exact .read fun s hs => ih s hs count held
  | write hs _ ih => exact .write hs (ih count held)

/-- A value for the empty stream hides no failure. -/
theorem fails_defaultIfEmpty (x : α) (h : Fails P stage) : Fails P (defaultIfEmpty x stage) := by
  induction h with
  | failure e rest => exact .failure e _
  | item h _ => exact .item h
  | read _ ih => exact .read ih
  | write hs _ ih => exact .write hs ih

/-- A value for the empty stream is delivered only if nothing else is. -/
theorem yields_defaultIfEmpty (x : α) (h : Yields P stage xs) :
    Yields P (defaultIfEmpty x stage) (if xs.isEmpty then [x] else xs) := by
  induction h with
  | done => exact .item .done
  | item h _ => exact .item h
  | read _ ih => exact .read ih
  | write hs _ ih => exact .write hs ih

/-- Skipping delivers what is left. -/
theorem yields_skip (n : Nat) (h : Yields P stage xs) : Yields P (skip n stage) (xs.drop n) := by
  induction h generalizing n with
  | done => cases n <;> exact .done
  | item h ih =>
    cases n with
    | zero => exact .item h
    | succ n => exact ih n
  | read h ih =>
    cases n with
    | zero => exact .read h
    | succ n => exact .read fun s hs => ih s hs (n + 1)
  | write hs h ih =>
    cases n with
    | zero => exact .write hs h
    | succ n => exact .write hs (ih (n + 1))

/-- What a callback makes of the first value and of every stage with the same values. -/
theorem yields_peek {f : Option α → Stage σ ε α → Stage σ ε β} {ys : List β}
    (hf : ∀ whole, Yields P whole xs → Yields P (f xs.head? whole) ys) (h : Yields P stage xs) :
    Yields P (peek f stage) ys := by
  induction h with
  | done => exact hf .done .done
  | item h _ => exact hf _ (.item h)
  | read _ ih => exact .read fun s hs => ih s hs hf
  | write hs _ ih => exact .write hs (ih hf)

end Streaming

/-! ## Operators that work on whole lists -/

namespace Vectorized

variable {stage : Stage σ ε α} {v : Option (List α)}

/-- Pieces that have been cut off before stay in front. -/
theorem chunksOnto_eq (size : Nat) (found : List (List α)) (fuel : Nat) (xs : List α) :
    chunksOnto size found fuel xs = found.reverse ++ chunksOnto size [] fuel xs := by
  induction fuel generalizing found xs with
  | zero => simp [chunksOnto]
  | succ fuel ih =>
    unfold chunksOnto
    split
    · simp
    · rw [ih (_ :: found), ih [_]]
      simp

/-- Cutting a list makes the runs that buffering makes of it, whatever has been held back so far. -/
theorem chunksOnto_eq_runs {size : Nat} (fuel : Nat) (held xs : List α) (hh : held.length < size)
    (hf : (held.reverse ++ xs).length ≤ fuel) :
    chunksOnto size [] fuel (held.reverse ++ xs) = Streaming.runs size held.length held xs := by
  induction xs generalizing held fuel with
  | nil =>
    rw [List.append_nil] at hf ⊢
    rw [Streaming.runs]
    cases fuel with
    | zero =>
      obtain rfl : held = [] := List.length_eq_zero_iff.1 (by rw [List.length_reverse] at hf; omega)
      rfl
    | succ fuel =>
      have hle : held.reverse.length ≤ size := by
        rw [List.length_reverse]
        omega
      have hend : ∀ n, chunksOnto size [held.reverse] n ([] : List α) = [held.reverse] := by
        intro n
        cases n <;> rfl
      rw [chunksOnto, List.take_of_length_le hle, List.drop_of_length_le hle, hend, List.isEmpty_reverse]
      rfl
  | cons x xs ih =>
    rw [Streaming.runs]
    split
    · rename_i hfull
      have hsize : size = (x :: held).reverse.length := by
        rw [List.length_reverse, List.length_cons]
        omega
      have hsplit : held.reverse ++ x :: xs = (x :: held).reverse ++ xs := by simp
      have hne : ((x :: held).reverse ++ xs).isEmpty = false := by simp
      rw [hsplit] at hf ⊢
      cases fuel with
      | zero => simp at hf
      | succ fuel =>
        have hrest := ih fuel [] (by rw [List.length_nil]; omega) (by simp at hf ⊢; omega)
        rw [chunksOnto, hne, hsize, List.take_left', List.drop_left', chunksOnto_eq, ← hsize]
        · exact congrArg ((x :: held).reverse :: ·) hrest
        · rfl
        · rfl
    · have hsplit : held.reverse ++ x :: xs = (x :: held).reverse ++ xs := by simp
      rw [hsplit] at hf ⊢
      exact ih fuel _ (by rw [List.length_cons]; omega) hf

/-- A list is cut into the runs that a buffer makes of a stream. -/
theorem chunks_eq_runs {size : Nat} (hs : 0 < size) (xs : List α) :
    chunks size xs = Streaming.runs size 0 [] xs :=
  chunksOnto_eq_runs _ [] xs hs (Nat.le_refl _)

/-- A stage that is run to its end and then made into another one. -/
theorem delivers_materialize {f : List α → σ → Except ε (List β) × σ} {w : List α → Option (List β)}
    (hf : ∀ xs, v = some xs → ∀ s, P s → P (f xs s).2 ∧ (f xs s).1.toOption = w xs) (h : Delivers P stage v) :
    Delivers P (materialize f stage) (v.bind w) := by
  refine .read fun s hs => ?_
  obtain ⟨ht, hv⟩ := h.collect hs
  rcases hc : stage.collect s with ⟨e | xs, t⟩
  · rw [hc] at ht hv
    obtain rfl : none = v := hv
    exact .write ht (.failure e .done)
  · rw [hc] at ht hv
    obtain rfl : some xs = v := hv
    obtain ⟨hu, hw⟩ := hf xs rfl t ht
    rw [Option.bind_some, ← hw]
    exact .write hu (.ofExcept _)

/-- What is done with the whole list is done with what is delivered. -/
theorem delivers_onList (f : List α → List β) (h : Delivers P stage v) : Delivers P (onList f stage) (v.map f) := by
  have hv : v.map f = v.bind fun xs => some (f xs) := by cases v <;> rfl
  rw [hv]
  exact delivers_materialize (fun _ _ _ hs => ⟨hs, rfl⟩) h

/-- On whole lists, mapping with a function that may fail delivers nothing if it fails for a value. -/
theorem delivers_tryMap (f : α → Except ε β) (h : Delivers P stage v) :
    Delivers P (tryMap f stage) (v.bind fun xs => (xs.mapM f).toOption) :=
  delivers_materialize (fun _ _ _ hs => ⟨hs, rfl⟩) h

/-- Collecting a stage for each value collects their lists, or fails. -/
theorem collectEach_joined {f : α → Stage σ ε β} {w : α → Option (List β)} {xs : List α}
    (hf : ∀ x ∈ xs, Delivers P (f x) (w x)) (s : σ) (hs : P s) :
    P (collectEach f xs s).2 ∧ (collectEach f xs s).1.toOption = joined w xs := by
  induction xs generalizing s with
  | nil => exact ⟨hs, rfl⟩
  | cons x xs ih =>
    obtain ⟨ht, hx⟩ := (hf x List.mem_cons_self).collect hs
    rw [collectEach_cons, joined_cons, ← hx]
    rcases hc : (f x).collect s with ⟨e | ys, t⟩
    · rw [hc] at ht
      exact ⟨ht, rfl⟩
    · rw [hc] at ht
      obtain ⟨hu, hr⟩ := ih (fun y hy => hf y (List.mem_cons_of_mem x hy)) t ht
      refine ⟨hu, ?_⟩
      rw [← hr]
      dsimp only
      cases (collectEach f xs t).1 <;> rfl

/-- Merging delivers the lists of the merged stages one after the other, or fails. -/
theorem delivers_mergeMap {f : α → Stage σ ε β} {w : α → Option (List β)}
    (hf : ∀ x, (∀ xs, v = some xs → x ∈ xs) → Delivers P (f x) (w x)) (h : Delivers P stage v) :
    Delivers P (mergeMap f stage) (v.bind (joined w)) := by
  refine delivers_materialize (fun xs hv => collectEach_joined fun x hx => hf x ?_) h
  rintro _ rfl
  rwa [Option.some.inj hv]

/-- A peek delivers what it makes of the whole list. -/
theorem delivers_peek {f : Option α → Stage σ ε α → Stage σ ε β} {w : List α → Option (List β)}
    (hf : ∀ xs, v = some xs → Delivers P (f xs.head? (ofList xs)) (w xs)) (h : Delivers P stage v) :
    Delivers P (peek f stage) (v.bind w) :=
  delivers_materialize (fun xs hv _ hs => (hf xs hv).collect hs) h

end Vectorized

end Stage

/-! ## Both engines -/

namespace Engine

open Stage

variable {σ ε α β γ : Type} {P : σ → Prop} {stage : Stage σ ε α} {v : Option (List α)} (g : Engine)

/-- On either engine, mapping delivers what is mapped. -/
theorem delivers_map (f : α → β) (h : Delivers P stage v) : Delivers P (g.map f stage) (v.map (List.map f)) := by
  cases g with
  | vectorized => exact Vectorized.delivers_onList _ h
  | streaming =>
    cases v with
    | none => exact Streaming.fails_map f h
    | some xs => exact Streaming.yields_map f h

/-- Mapping with a function that may fail delivers what is mapped if it does not fail. -/
theorem delivers_tryMap (f : α → Except ε β) (h : Delivers P stage v) :
    Delivers P (g.tryMap f stage) (v.bind fun xs => (xs.mapM f).toOption) := by
  cases g with
  | vectorized => exact Vectorized.delivers_tryMap f h
  | streaming =>
    cases v with
    | none => exact Streaming.fails_tryMap f h
    | some xs => exact Streaming.delivers_tryMap f h

/-- Mapping with one that may leave values out delivers the others. -/
theorem delivers_filterMap (f : α → Option β) (h : Delivers P stage v) :
    Delivers P (g.filterMap f stage) (v.map (List.filterMap f)) := by
  cases g with
  | vectorized => exact Vectorized.delivers_onList _ h
  | streaming =>
    cases v with
    | none => exact Streaming.fails_filterMap f h
    | some xs => exact Streaming.yields_filterMap f h

/-- A filter delivers what passes. -/
theorem delivers_filter (p : α → Bool) (h : Delivers P stage v) :
    Delivers P (g.filter p stage) (v.map (List.filter p)) := by
  rw [← List.filterMap_eq_filter]
  exact g.delivers_filterMap _ h

/-- The callback is only asked for the values of the input, unless that fails. -/
theorem delivers_mergeMap {f : α → Stage σ ε β} {w : α → Option (List β)}
    (hf : ∀ x, (∀ xs, v = some xs → x ∈ xs) → Delivers P (f x) (w x)) (h : Delivers P stage v) :
    Delivers P (g.mergeMap f stage) (v.bind (joined w)) := by
  cases g with
  | vectorized => exact Vectorized.delivers_mergeMap hf h
  | streaming =>
    cases v with
    | none => exact Streaming.fails_mergeMap (fun x => hf x nofun) h
    | some xs =>
      refine Streaming.delivers_mergeMap (fun x hx => hf x ?_) h
      rintro _ ⟨⟩
      exact hx

/-- Reducing delivers what all values are folded to. -/
theorem delivers_reduce (f : β → α → β) (init : β) (h : Delivers P stage v) :
    Delivers P (g.reduce f init stage) (v.map fun xs => [xs.foldl f init]) := by
  cases g with
  | vectorized => exact Vectorized.delivers_onList _ h
  | streaming =>
    cases v with
    | none => exact Streaming.fails_reduce f init h
    | some xs => exact Streaming.yields_reduce f init h

/-- Distinct values are delivered as the first occurrences. -/
theorem delivers_distinct [Keyed γ] (key : α → γ) (h : Delivers P stage v) :
    Delivers P (g.distinct key stage) (v.map (KeySet.firstsOn key)) := by
  cases g with
  | vectorized => exact Vectorized.delivers_onList _ h
  | streaming =>
    cases v with
    | none => exact Streaming.fails_distinct key .empty h
    | some xs => exact Streaming.yields_distinct key .empty h

/-- Runs have at least one value each, whatever their size is asked to be. -/
theorem delivers_buffer (size : Nat) (h : Delivers P stage v) :
    Delivers P (g.buffer size stage) (v.map (Vectorized.chunks (max size 1))) := by
  cases g with
  | vectorized => exact Vectorized.delivers_onList _ h
  | streaming =>
    cases v with
    | none => exact Streaming.fails_buffer _ 0 [] h
    | some xs =>
      have hruns := Streaming.yields_buffer (max size 1) 0 [] h
      rwa [← Vectorized.chunks_eq_runs (by omega)] at hruns

/-- Gathering delivers one list. -/
theorem delivers_gather (h : Delivers P stage v) : Delivers P (g.gather stage) (v.map fun xs => [xs]) := by
  cases g with
  | vectorized => exact Vectorized.delivers_onList _ h
  | streaming =>
    cases v with
    | none => exact Streaming.fails_gather h
    | some xs => exact Streaming.yields_gather h

/-- A value for the empty stage is delivered if nothing else is. -/
theorem delivers_defaultIfEmpty (x : α) (h : Delivers P stage v) :
    Delivers P (g.defaultIfEmpty x stage) (v.map fun xs => if xs.isEmpty then [x] else xs) := by
  cases g with
  | vectorized => exact Vectorized.delivers_onList _ h
  | streaming =>
    cases v with
    | none => exact Streaming.fails_defaultIfEmpty x h
    | some xs => exact Streaming.yields_defaultIfEmpty x h

/-- Item by item, the items after the first `n` are not asked for, so a failure among them is not noticed. -/
theorem delivers_limit (n : Nat) (hv : g = .vectorized ∨ v.isSome) (h : Delivers P stage v) :
    Delivers P (g.limit n stage) (v.map (List.take n)) := by
  cases g with
  | vectorized => exact Vectorized.delivers_onList _ h
  | streaming =>
    cases v with
    | none => simp at hv
    | some xs => exact Streaming.yields_limit n h

/-- Item by item, a failure among the first `n` items is dropped like a value. -/
theorem delivers_skip (n : Nat) (hv : g = .vectorized ∨ v.isSome) (h : Delivers P stage v) :
    Delivers P (g.skip n stage) (v.map (List.drop n)) := by
  cases g with
  | vectorized => exact Vectorized.delivers_onList _ h
  | streaming =>
    cases v with
    | none => simp at hv
    | some xs => exact Streaming.yields_skip n h

/-- Item by item, the callback gets the input as it is, with its failures, and may leave them alone. -/
theorem delivers_peek {f : Option α → Stage σ ε α → Stage σ ε β} {w : List α → Option (List β)}
    (hv : g = .vectorized ∨ (v.bind w).isSome)
    (hf : ∀ xs, v = some xs → ∀ whole, Yields P whole xs → Delivers P (f xs.head? whole) (w xs))
    (h : Delivers P stage v) : Delivers P (g.peek f stage) (v.bind w) := by
  cases g with
  | vectorized => exact Vectorized.delivers_peek (fun xs hv => hf xs hv _ (.ofList xs)) h
  | streaming =>
    cases v with
    | none => simp at hv
    | some xs =>
      obtain ⟨ys, hys⟩ := Option.isSome_iff_exists.1 (hv.resolve_left nofun)
      rw [Option.bind_some] at hys ⊢
      have hcall := hf xs rfl
      rw [hys] at hcall ⊢
      exact Streaming.yields_peek hcall h

end Engine

end SparqlAlgebra

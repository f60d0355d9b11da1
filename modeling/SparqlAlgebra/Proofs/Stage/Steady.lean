import SparqlAlgebra.Proofs.Stage.Similar
import SparqlAlgebra.Proofs.Stage.Yields

/-!
# Stages whose effects do not show

A stage is steady if it changes a state only into one that is related to the same states. Two steady stages that
yield the same values are similar, however many looks at the state and changes lie between the values; so a stage
that looks something up may take the place of one that has its values at hand.
-/

namespace SparqlAlgebra

namespace Stage

variable {σ ε α β γ : Type} {R : σ → σ → Prop} {P : σ → Prop} {s t : σ}

/-- From this state on each change leads to a state that is related to the same states. -/
inductive SteadyAt (R : σ → σ → Prop) : Stage σ ε α → σ → Prop
  | done {s : σ} : SteadyAt R .done s
  | item {x : Except ε α} {rest : Stage σ ε α} {s : σ} :
      (∀ s t, R s t → SteadyAt R rest s) → SteadyAt R (.item x rest) s
  | read {next : σ → Stage σ ε α} {s : σ} : SteadyAt R (next s) s → SteadyAt R (.read next) s
  | write {s u : σ} {rest : Stage σ ε α} :
      (∀ t, R s t → R u t) → SteadyAt R rest u → SteadyAt R (.write u rest) s

/-- From every related state on each change leads to a state that is related to the same states. -/
def Steady (R : σ → σ → Prop) (a : Stage σ ε α) : Prop := ∀ s t, R s t → SteadyAt R a s

/-- The empty stage changes nothing. -/
theorem Steady.done : Steady R (.done : Stage σ ε α) := fun _ _ _ => .done

/-- A steady stage stays so behind an item. -/
theorem Steady.item (x : Except ε α) {a : Stage σ ε α} (h : Steady R a) : Steady R (.item x a) :=
  fun _ _ _ => .item h

/-- Reading does not, if what comes after it does not. -/
theorem Steady.read {f : σ → Stage σ ε α} (h : ∀ s t, R s t → SteadyAt R (f s) s) : Steady R (.read f) :=
  fun s t hR => .read (h s t hR)

/-- A list changes nothing. -/
theorem Steady.ofList (xs : List α) : Steady R (Stage.ofList xs : Stage σ ε α) := by
  induction xs with
  | nil => exact .done
  | cons x xs ih => exact .item _ (.read ih)

/-- A list that may have failed changes nothing as a stage. -/
theorem Steady.ofExcept (r : Except ε (List α)) : Steady R (Stage.ofExcept r : Stage σ ε α) := by
  cases r with
  | ok xs => exact .ofList xs
  | error e => exact .item _ .done

/-- After collecting a steady stage the state is related to what it was related to before. -/
theorem SteadyAt.collect {a : Stage σ ε α} (h : SteadyAt R a s) (hR : R s t) : R (a.collect s).2 t := by
  induction h generalizing t with
  | done => exact hR
  | @item x rest s _ ih =>
    cases x with
    | error e => exact hR
    | ok x =>
      rw [collect_ok]
      exact ih s t hR hR
  | read _ ih => exact ih hR
  | write hu _ ih => exact ih (hu t hR)

/-- Steady stages one after the other are steady. -/
theorem SteadyAt.append {a b : Stage σ ε α} (h : SteadyAt R a s) (hR : R s t) (k : Steady R b) :
    SteadyAt R (a.append b) s := by
  induction h generalizing t with
  | done => exact k _ _ hR
  | item _ ih => exact .item fun s t hR => ih s t hR hR
  | read _ ih => exact .read (ih hR)
  | write hu _ ih => exact .write hu (ih (hu t hR))

/-- Steady stages that yield the same values are similar. -/
theorem SteadyAt.similarAt {a b : Stage σ ε α} {xs : List α} (hP : ∀ s t, R s t → P s ∧ P t)
    (ha : SteadyAt R a s) (hya : Yields P a xs) (hb : SteadyAt (fun s t => R t s) b t) (hyb : Yields P b xs)
    (hR : R s t) : SimilarAt R a s b t := by
  induction ha generalizing b xs t with
  | done =>
    cases hya
    induction hb with
    | done => exact .done hR
    | item => cases hyb
    | read _ ih =>
      cases hyb with
      | read hyb => exact .readRight (ih hR (hyb _ (hP _ _ hR).2))
    | write hu _ ih =>
      cases hyb with
      | write _ hyb => exact .writeRight (ih (hu _ hR) hyb)
  | item ha iha =>
    cases hya with
    | item hya =>
      induction hb with
      | done => cases hyb
      | item hb =>
        cases hyb with
        | item hyb => exact .item hR fun s t hR => iha s t hR hya (hb t s hR) hyb hR
      | read _ ih =>
        cases hyb with
        | read hyb => exact .readRight (ih hR (hyb _ (hP _ _ hR).2))
      | write hu _ ih =>
        cases hyb with
        | write _ hyb => exact .writeRight (ih (hu _ hR) hyb)
  | read _ ih =>
    cases hya with
    | read hya => exact .readLeft (ih (hya _ (hP _ _ hR).1) hb hyb hR)
  | write hu _ ih =>
    cases hya with
    | write _ hya => exact .writeLeft (ih hya hb hyb (hu _ hR))

/-! ## Operators that work item by item -/

namespace Streaming

variable {a : Stage σ ε α}

/-- A steady stream stays so when it is mapped. -/
theorem steadyAt_map (f : α → β) (h : SteadyAt R a s) : SteadyAt R (map f a) s := by
  induction h with
  | done => exact .done
  | @item x _ _ _ ih =>
    cases x with
    | error e => exact .item ih
    | ok x => exact .item ih
  | read _ ih => exact .read ih
  | write hu _ ih => exact .write hu ih

/-- A steady stream stays so when values are left out. -/
theorem steadyAt_filterMap (f : α → Option β) (h : SteadyAt R a s) (hR : R s t) :
    SteadyAt R (filterMap f a) s := by
  induction h generalizing t with
  | done => exact .done
  | @item x _ s _ ih =>
    cases x with
    | error e => exact .item fun s t hR => ih s t hR hR
    | ok x =>
      rw [filterMap]
      cases f x with
      | none => exact ih s t hR hR
      | some y => exact .item fun s t hR => ih s t hR hR
  | read _ ih => exact .read (ih hR)
  | write hu _ ih => exact .write hu (ih (hu t hR))

/-- Only the changes for values that come up matter. -/
theorem steadyAt_filterMapWithState {f : α → σ → Except ε (Option β) × σ} {xs : List α}
    (hP : ∀ s t, R s t → P s) (hf : ∀ x ∈ xs, ∀ s t, R s t → R (f x s).2 t) (h : SteadyAt R a s)
    (hy : Yields P a xs) (hR : R s t) : SteadyAt R (filterMapWithState f a) s := by
  induction h generalizing xs t with
  | done => exact .done
  | @item x _ s _ ih =>
    cases hy with
    | item hy =>
      have hrest := fun y hx => hf y (List.mem_cons_of_mem _ hx)
      refine .read ?_
      have hu := hf _ List.mem_cons_self s
      rename_i x xs
      rcases hfx : f x s with ⟨v, u⟩
      rw [hfx] at hu
      rcases v with e | _ | y
      · exact .write hu (.item fun s t hR => ih s t hR hrest hy hR)
      · exact .write hu (ih u t (hu t hR) hrest hy (hu t hR))
      · exact .write hu (.item fun s t hR => ih s t hR hrest hy hR)
  | read _ ih =>
    cases hy with
    | read hy => exact .read (ih hf (hy _ (hP _ _ hR)) hR)
  | write hu _ ih =>
    cases hy with
    | write _ hy => exact .write hu (ih hf hy (hu t hR))

/-- Merging steady streams is steady. -/
theorem steadyAt_mergeMap {f : α → Stage σ ε β} (hf : ∀ x, Steady R (f x)) (h : SteadyAt R a s) (hR : R s t) :
    SteadyAt R (mergeMap f a) s := by
  induction h generalizing t with
  | done => exact .done
  | @item x _ s _ ih =>
    cases x with
    | error e => exact .item fun s t hR => ih s t hR hR
    | ok x => exact (hf x s t hR).append hR fun s t hR => ih s t hR hR
  | read _ ih => exact .read (ih hR)
  | write hu _ ih => exact .write hu (ih (hu t hR))

/-- Reducing a steady stream is steady. -/
theorem steadyAt_reduce (f : β → α → β) (acc : β) (h : SteadyAt R a s) (hR : R s t) :
    SteadyAt R (reduce f acc a) s := by
  induction h generalizing acc t with
  | done => exact .item fun _ _ _ => .done
  | @item x _ s _ ih =>
    cases x with
    | error e => exact .item fun _ _ _ => .done
    | ok x => exact ih s t hR _ hR
  | read _ ih => exact .read (ih acc hR)
  | write hu _ ih => exact .write hu (ih acc (hu t hR))

/-- Gathering a steady stream is steady. -/
theorem steady_gather (h : Steady R a) : Steady R (gather a) :=
  fun s t hR => steadyAt_map _ (steadyAt_reduce _ _ (h s t hR) hR)

/-- A limit above zero leaves a stream steady. -/
theorem steadyAt_limit_succ (n : Nat) (h : SteadyAt R a s) : SteadyAt R (limit (n + 1) a) s := by
  induction h generalizing n with
  | done => exact .done
  | item _ ih =>
    cases n with
    | zero =>
      rw [limit, limit]
      exact .item fun _ _ _ => .done
    | succ n => exact .item fun s t hR => ih s t hR n
  | read _ ih => exact .read (ih n)
  | write hu _ ih => exact .write hu (ih n)

/-- Keeping distinct values leaves a stream steady. -/
theorem steadyAt_distinct [Keyed γ] (key : α → γ) (seen : KeySet γ) (h : SteadyAt R a s) (hR : R s t) :
    SteadyAt R (distinct key seen a) s := by
  induction h generalizing seen t with
  | done => exact .done
  | @item x _ s _ ih =>
    cases x with
    | error e => exact .item fun s t hR => ih s t hR seen hR
    | ok x =>
      rw [distinct]
      split
      · exact ih s t hR seen hR
      · exact .item fun s t hR => ih s t hR _ hR
  | read _ ih => exact .read (ih seen hR)
  | write hu _ ih => exact .write hu (ih seen (hu t hR))

/-- Going on with steady rounds is steady. -/
theorem steadyAt_upToRound {f : Stage σ ε (Option α) → Stage σ ε (Option α)}
    (hf : ∀ a, Steady R a → Steady R (f a)) {a : Stage σ ε (Option α)} (h : SteadyAt R a s) :
    SteadyAt R (upToRound f a) s := by
  induction h with
  | done => exact .item (hf _ .done)
  | @item x _ _ hr ih =>
    rcases x with e | _ | x
    · exact .item ih
    · exact .item (hf _ hr)
    · exact .item ih
  | read _ ih => exact .read ih
  | write hu _ ih => exact .write hu ih

/-- Taking turns with steady rounds is steady. -/
theorem steadyAt_takeTurns {rounds : Stage σ ε (Option α)} (hr : Steady R rounds) (h : SteadyAt R a s)
    (hR : R s t) : SteadyAt R (takeTurns a rounds) s := by
  induction h generalizing rounds t with
  | done => exact hr _ _ hR
  | item _ ih =>
    exact .item fun s t hR => steadyAt_upToRound (fun _ hr s t hR => ih s t hR hr hR) (hr s t hR)
  | read _ ih => exact .read (ih hr hR)
  | write hu _ ih => exact .write hu (ih hr (hu t hR))

/-- Merged streams are steady if each of them is. -/
theorem steady_merge {as : List (Stage σ ε α)} (h : ∀ a ∈ as, Steady R a) : Steady R (merge as) := by
  have hr : Steady R (as.foldr takeTurns .done) := by
    induction as with
    | nil => exact .done
    | cons a as ih =>
      have hrest := ih fun b hb => h b (List.mem_cons_of_mem _ hb)
      exact fun s t hR => steadyAt_takeTurns hrest (h a List.mem_cons_self s t hR) hR
  exact fun s t hR => steadyAt_filterMap id (hr s t hR) hR

end Streaming

/-! ## Operators that work on whole lists -/

namespace Vectorized

variable {a : Stage σ ε α}

/-- What is made of a whole list is steady if it leads to related states. -/
theorem steady_materialize {f : List α → σ → Except ε (List β) × σ} (hf : ∀ xs s t, R s t → R (f xs s).2 t)
    (h : Steady R a) : Steady R (materialize f a) := by
  refine .read fun s t hR => ?_
  have hs : ∀ u, R s u → R (a.collect s).2 u := fun u hu => (h s u hu).collect hu
  rcases hca : a.collect s with ⟨v, s'⟩
  rw [hca] at hs
  cases v with
  | error e => exact .write hs (.item fun _ _ _ => .done)
  | ok xs =>
    have hu : ∀ u, R s u → R (f xs s').2 u := fun u hu => hf xs s' u (hs u hu)
    exact .write hu (Steady.ofExcept _ _ _ (hu t hR))

/-- What a function makes of the whole list of a steady stage is steady. -/
theorem steady_onList (f : List α → List β) (h : Steady R a) : Steady R (onList f a) :=
  steady_materialize (fun _ _ _ hR => hR) h

/-- Going through a list with a function that leads to related states leads to related states. -/
theorem filterMapOnto_steady {f : α → σ → Except ε (Option β) × σ} (found : List β) {xs : List α}
    (hf : ∀ x ∈ xs, ∀ s t, R s t → R (f x s).2 t) (hR : R s t) : R (filterMapOnto f found xs s).2 t := by
  induction xs generalizing found s with
  | nil => exact hR
  | cons x xs ih =>
    have hrest := fun y hx => hf y (List.mem_cons_of_mem _ hx)
    have hs := hf x List.mem_cons_self s t hR
    rw [filterMapOnto]
    rcases hfx : f x s with ⟨v, u⟩
    rw [hfx] at hs
    rcases v with e | _ | y
    · exact hs
    · exact ih found hrest hs
    · exact ih (y :: found) hrest hs

/-- Only the changes for values that come up matter. -/
theorem steady_filterMapStep {f : α → σ → Except ε (Option β) × σ} {xs : List α} (hP : ∀ s t, R s t → P s)
    (hf : ∀ x ∈ xs, ∀ s t, R s t → R (f x s).2 t) (h : Steady R a) (hy : Yields P a xs) :
    Steady R (materialize (filterMapStep f) a) := by
  refine .read fun s t hR => ?_
  obtain ⟨s', -, hc⟩ := hy.collect (hP s t hR)
  have hs : ∀ u, R s u → R s' u := by
    intro u hu
    have hcu := (h s u hu).collect hu
    rwa [hc] at hcu
  have hu : ∀ u, R s u → R (filterMapStep f xs s').2 u := fun u hu => filterMapOnto_steady [] hf (hs u hu)
  rw [hc]
  exact .write hu (Steady.ofExcept _ _ _ (hu t hR))

/-- Collecting steady stages for the values of a list leads to related states. -/
theorem collectEach_steady {f : α → Stage σ ε β} {xs : List α} (hf : ∀ x ∈ xs, Steady R (f x)) (hR : R s t) :
    R (collectEach f xs s).2 t := by
  induction xs generalizing s with
  | nil => exact hR
  | cons x xs ih =>
    have hs := (hf x List.mem_cons_self s t hR).collect hR
    rw [collectEach_cons]
    rcases hfx : (f x).collect s with ⟨v, u⟩
    rw [hfx] at hs
    cases v with
    | error e => exact hs
    | ok ys => exact ih (fun x hx => hf x (List.mem_cons_of_mem _ hx)) hs

/-- On whole lists, merging steady stages is steady. -/
theorem steady_mergeMap {f : α → Stage σ ε β} (hf : ∀ x, Steady R (f x)) (h : Steady R a) :
    Steady R (mergeMap f a) :=
  steady_materialize (fun _ _ _ hR => collectEach_steady (fun x _ => hf x) hR) h

/-- On whole lists, putting steady stages together is steady. -/
theorem steady_merge {as : List (Stage σ ε α)} (h : ∀ a ∈ as, Steady R a) : Steady R (merge as) := by
  refine .read fun s t hR => ?_
  have hs : ∀ u, R s u → R (collectEach id as s).2 u := fun u hu => collectEach_steady h hu
  exact .write hs (Steady.ofExcept _ _ _ (hs t hR))

end Vectorized

end Stage

/-! ## Operators of an engine -/

namespace Engine

open Stage

variable {σ ε α β γ : Type} {R : σ → σ → Prop} {P : σ → Prop} {a : Stage σ ε α} (g : Engine)

/-- On either engine, mapping a steady stage is steady. -/
theorem steady_map (f : α → β) (h : Steady R a) : Steady R (g.map f a) := by
  cases g with
  | streaming => exact fun s t hR => Streaming.steadyAt_map f (h s t hR)
  | vectorized => exact Vectorized.steady_onList _ h

/-- On either engine, leaving values out of a steady stage is steady. -/
theorem steady_filterMap (f : α → Option β) (h : Steady R a) : Steady R (g.filterMap f a) := by
  cases g with
  | streaming => exact fun s t hR => Streaming.steadyAt_filterMap f (h s t hR) hR
  | vectorized => exact Vectorized.steady_onList _ h

/-- Only the changes for values that come up matter. -/
theorem steady_mapWithState {f : α → σ → β × σ} {xs : List α} (hP : ∀ s t, R s t → P s)
    (hf : ∀ x ∈ xs, ∀ s t, R s t → R (f x s).2 t) (h : Steady R a) (hy : Yields P a xs) :
    Steady R (g.mapWithState f a) := by
  cases g with
  | streaming => exact fun s t hR => Streaming.steadyAt_filterMapWithState hP hf (h s t hR) hy hR
  | vectorized => exact Vectorized.steady_filterMapStep hP hf h hy

/-- Merging steady stages is steady. -/
theorem steady_mergeMap {f : α → Stage σ ε β} (hf : ∀ x, Steady R (f x)) (h : Steady R a) :
    Steady R (g.mergeMap f a) := by
  cases g with
  | streaming => exact fun s t hR => Streaming.steadyAt_mergeMap hf (h s t hR) hR
  | vectorized => exact Vectorized.steady_mergeMap hf h

/-- A limit above zero leaves a stage steady. -/
theorem steady_limit_succ (n : Nat) (h : Steady R a) : Steady R (g.limit (n + 1) a) := by
  cases g with
  | streaming => exact fun s t hR => Streaming.steadyAt_limit_succ n (h s t hR)
  | vectorized => exact Vectorized.steady_onList _ h

/-- On either engine, keeping distinct values leaves a stage steady. -/
theorem steady_distinct [Keyed γ] (key : α → γ) (h : Steady R a) : Steady R (g.distinct key a) := by
  cases g with
  | streaming => exact fun s t hR => Streaming.steadyAt_distinct key .empty (h s t hR) hR
  | vectorized => exact Vectorized.steady_onList _ h

/-- Gathering a steady stage is steady. -/
theorem steady_gather (h : Steady R a) : Steady R (g.gather a) := by
  cases g with
  | streaming => exact Streaming.steady_gather h
  | vectorized => exact Vectorized.steady_onList _ h

/-- Stages that are put together are steady if each of them is. -/
theorem steady_merge {as : List (Stage σ ε α)} (h : ∀ a ∈ as, Steady R a) : Steady R (g.merge as) := by
  cases g with
  | streaming => exact Streaming.steady_merge h
  | vectorized => exact Vectorized.steady_merge h

end Engine

end SparqlAlgebra

import SparqlAlgebra.Proofs.Stage.Within

/-!
# Stages that deliver only values of a kind

A stage delivers only values of a kind if no run that starts where an invariant of the state holds comes to any other
value, before or after a failure, and if the invariant holds wherever the run gets. Operators keep this, of either
engine, in any state: nothing is said of how many values there are, so it does not matter what else a stage finds.
-/

namespace SparqlAlgebra

namespace Stage

variable {σ ε α β γ : Type} {P : σ → Prop} {Q : α → Prop} {R : β → Prop}

/-- Every run within the invariant keeps it, and comes to no other values than those that have the property. -/
inductive Only (P : σ → Prop) (Q : α → Prop) : Stage σ ε α → Prop
  | done : Only P Q .done
  | value {x : α} {rest : Stage σ ε α} : Q x → Only P Q rest → Only P Q (.item (.ok x) rest)
  | failure {e : ε} {rest : Stage σ ε α} : Only P Q rest → Only P Q (.item (.error e) rest)
  | read {next : σ → Stage σ ε α} : (∀ s, P s → Only P Q (next s)) → Only P Q (.read next)
  | write {s : σ} {rest : Stage σ ε α} : P s → Only P Q rest → Only P Q (.write s rest)

/-- Each value of a list has a property. -/
def Each (Q : α → Prop) (xs : List α) : Prop := ∀ x ∈ xs, Q x

/-- An empty list has the property. -/
theorem Each.nil : Each Q [] := fun _ hx => absurd hx List.not_mem_nil

/-- One more value needs to have it. -/
theorem Each.cons {x : α} {xs : List α} (hx : Q x) (hxs : Each Q xs) : Each Q (x :: xs) :=
  List.forall_mem_cons.2 ⟨hx, hxs⟩

/-- Two lists together have it if both do. -/
theorem Each.append {xs ys : List α} (hx : Each Q xs) (hy : Each Q ys) : Each Q (xs ++ ys) :=
  List.forall_mem_append.2 ⟨hx, hy⟩

/-- What is left of a list has a property if it comes from values with one. -/
theorem Each.filterMap {f : α → Option β} {xs : List α} (hf : ∀ x, Q x → ∀ y, f x = some y → R y) (h : Each Q xs) :
    Each R (xs.filterMap f) := by
  intro y hy
  obtain ⟨x, hx, hxy⟩ := List.mem_filterMap.1 hy
  exact hf x (h x hx) y hxy

namespace Only

variable {stage : Stage σ ε α}

/-- All items of a run that are values have the property, and the run keeps the invariant. -/
theorem run (h : Only P Q stage) {s : σ} (hs : P s) :
    (∀ x, .ok x ∈ (stage.run s).1 → Q x) ∧ P (stage.run s).2 := by
  induction h generalizing s with
  | done => exact ⟨by simp, hs⟩
  | @value x rest hx _ ih =>
    obtain ⟨hvalues, hkept⟩ := ih hs
    rw [run_item]
    refine ⟨fun y hy => ?_, hkept⟩
    rcases List.mem_cons.1 hy with hy | hy
    · cases hy
      exact hx
    · exact hvalues y hy
  | failure _ ih =>
    obtain ⟨hvalues, hkept⟩ := ih hs
    rw [run_item]
    exact ⟨fun y hy => hvalues y ((List.mem_cons.1 hy).resolve_left nofun), hkept⟩
  | read _ ih => exact ih s hs hs
  | write ht _ ih => exact ih ht

/-- A run ends with values that have the property. -/
theorem runs (h : Only P Q stage) : Runs P True (Each Q) stage := by
  intro s hs
  induction h generalizing s with
  | done => exact ⟨hs, .nil⟩
  | @value x rest hx _ ih =>
    have hrest := ih s hs
    rw [collect_ok]
    rcases hc : rest.collect s with ⟨_ | xs, t⟩
    · rw [hc] at hrest
      exact hrest
    · rw [hc] at hrest
      exact ⟨hrest.1, .cons hx hrest.2⟩
  | failure _ _ => exact ⟨hs, trivial⟩
  | read _ ih =>
    rw [collect_read]
    exact ih s hs s hs
  | write ht _ ih =>
    rw [collect_write]
    exact ih _ ht

/-- The property may be weakened. -/
theorem mono {Q' : α → Prop} (hQ : ∀ x, Q x → Q' x) (h : Only P Q stage) : Only P Q' stage := by
  induction h with
  | done => exact .done
  | value hx _ ih => exact .value (hQ _ hx) ih
  | failure _ ih => exact .failure ih
  | read _ ih => exact .read ih
  | write hs _ ih => exact .write hs ih

/-- The values of a list have it if the list does. -/
theorem ofList {xs : List α} (h : Each Q xs) : Only P Q (Stage.ofList xs : Stage σ ε α) := by
  induction xs with
  | nil => exact .done
  | cons x xs ih =>
    obtain ⟨hx, hxs⟩ := List.forall_mem_cons.1 h
    exact .value hx (.read fun _ _ => ih hxs)

/-- A failure has no values. -/
theorem fail (e : ε) : Only P Q (Stage.fail e : Stage σ ε α) := .failure .done

/-- A result that may be a failure becomes a stage. -/
theorem ofEnds {r : Except ε (List α)} {s : σ} (h : Ends P True (Each Q) (r, s)) :
    Only P Q (.write s (ofExcept r)) := by
  cases r with
  | error e => exact .write h.1 (.fail e)
  | ok xs => exact .write h.1 (.ofList h.2)

/-- What a stage does first leads to a stage with the property. -/
theorem act {f : σ → Stage σ ε α × σ} (h : ∀ s, P s → Only P Q (f s).1 ∧ P (f s).2) : Only P Q (Stage.act f) :=
  .read fun s hs => .write (h s hs).2 (h s hs).1

/-- Two stages one after the other have it if both do. -/
theorem append {a b : Stage σ ε α} (ha : Only P Q a) (hb : Only P Q b) : Only P Q (a.append b) := by
  induction ha with
  | done => exact hb
  | value hx _ ih => exact .value hx ih
  | failure _ ih => exact .failure ih
  | read _ ih => exact .read ih
  | write hs _ ih => exact .write hs ih

/-- A stage that is run for its effects alone has no values. -/
theorem settle (h : Only P Q stage) : Only P R (stage.settle : Stage σ ε β) := by
  induction h with
  | done => exact .done
  | value _ _ _ => exact .done
  | failure _ _ => exact .done
  | read _ ih => exact .read ih
  | write hs _ ih => exact .write hs ih

end Only

/-! ## Operators that work item by item -/

namespace Streaming

variable {stage : Stage σ ε α}

/-- The values of a mapped stream come from its values. -/
theorem only_map {f : α → β} (hf : ∀ x, Q x → R (f x)) (h : Only P Q stage) : Only P R (map f stage) := by
  induction h with
  | done => exact .done
  | value hx _ ih => exact .value (hf _ hx) ih
  | failure _ ih => exact .failure ih
  | read _ ih => exact .read ih
  | write hs _ ih => exact .write hs ih

/-- The values of a stream mapped with a function that may fail come from its values. -/
theorem only_tryMap {f : α → Except ε β} (hf : ∀ x, Q x → ∀ y, f x = .ok y → R y) (h : Only P Q stage) :
    Only P R (tryMap f stage) := by
  induction h with
  | done => exact .done
  | @value x _ hx _ ih =>
    rw [tryMap]
    cases hy : f x with
    | error e => exact .failure ih
    | ok y => exact .value (hf x hx y hy) ih
  | failure _ ih => exact .failure ih
  | read _ ih => exact .read ih
  | write hs _ ih => exact .write hs ih

/-- The values of a stream mapped with values left out come from its values. -/
theorem only_filterMap {f : α → Option β} (hf : ∀ x, Q x → ∀ y, f x = some y → R y) (h : Only P Q stage) :
    Only P R (filterMap f stage) := by
  induction h with
  | done => exact .done
  | @value x _ hx _ ih =>
    rw [filterMap]
    cases hy : f x with
    | none => exact ih
    | some y => exact .value (hf x hx y hy) ih
  | failure _ ih => exact .failure ih
  | read _ ih => exact .read ih
  | write hs _ ih => exact .write hs ih

/-- A stream mapped over the state has a property if the function gives it and keeps the invariant. -/
theorem only_filterMapWithState {f : α → σ → Except ε (Option β) × σ}
    (hf : ∀ x s, Q x → P s → Ends P True (fun y? => ∀ y, y? = some y → R y) (f x s)) (h : Only P Q stage) :
    Only P R (filterMapWithState f stage) := by
  induction h with
  | done => exact .done
  | @value x _ hx _ ih =>
    refine .read fun s hs => ?_
    have hends := hf x s hx hs
    rcases hy : f x s with ⟨_ | _ | y, t⟩
    · rw [hy] at hends
      exact .write hends.1 (.failure ih)
    · rw [hy] at hends
      exact .write hends.1 ih
    · rw [hy] at hends
      exact .write hends.1 (.value (hends.2 y rfl) ih)
  | failure _ ih => exact .failure ih
  | read _ ih => exact .read ih
  | write hs _ ih => exact .write hs ih

/-- Merged streams have the property if each of them has it. -/
theorem only_mergeMap {f : α → Stage σ ε β} (hf : ∀ x, Q x → Only P R (f x)) (h : Only P Q stage) :
    Only P R (mergeMap f stage) := by
  induction h with
  | done => exact .done
  | value hx _ ih => exact (hf _ hx).append ih
  | failure _ ih => exact .failure ih
  | read _ ih => exact .read ih
  | write hs _ ih => exact .write hs ih

/-- What values are folded to has a property that each step keeps. -/
theorem only_reduce {f : β → α → β} (hf : ∀ y x, R y → Q x → R (f y x)) {acc : β} (hacc : R acc) (h : Only P Q stage) :
    Only P R (reduce f acc stage) := by
  induction h generalizing acc with
  | done => exact .value hacc .done
  | value hx _ ih => exact ih (hf acc _ hacc hx)
  | failure _ _ => exact .fail _
  | read _ ih => exact .read fun s hs => ih s hs hacc
  | write hs _ ih => exact .write hs (ih hacc)

/-- A gathered list has the values of the stream. -/
theorem only_gather (h : Only P Q stage) : Only P (Each Q) (gather stage) :=
  only_map (Q := Each Q) (fun _ hxs x hx => hxs x (List.mem_reverse.1 hx))
    (only_reduce (fun _ _ hxs hx => .cons hx hxs) .nil h)

/-- A limit leaves only values of the stream. -/
theorem only_limit (n : Nat) (h : Only P Q stage) : Only P Q (limit n stage) := by
  induction h generalizing n with
  | done => cases n <;> exact .done
  | value hx _ ih =>
    cases n with
    | zero => exact .done
    | succ n => exact .value hx (ih n)
  | failure _ ih =>
    cases n with
    | zero => exact .done
    | succ n => exact .failure (ih n)
  | read _ ih =>
    cases n with
    | zero => exact .done
    | succ n => exact .read fun s hs => ih s hs (n + 1)
  | write hs _ ih =>
    cases n with
    | zero => exact .done
    | succ n => exact .write hs (ih (n + 1))

/-- Skipping some values leaves only values of the stream. -/
theorem only_skip (n : Nat) (h : Only P Q stage) : Only P Q (skip n stage) := by
  induction h generalizing n with
  | done => cases n <;> exact .done
  | value hx hrest ih =>
    cases n with
    | zero => exact .value hx hrest
    | succ n => exact ih n
  | failure hrest ih =>
    cases n with
    | zero => exact .failure hrest
    | succ n => exact ih n
  | read hnext ih =>
    cases n with
    | zero => exact .read hnext
    | succ n => exact .read fun s hs => ih s hs (n + 1)
  | write hs hrest ih =>
    cases n with
    | zero => exact .write hs hrest
    | succ n => exact .write hs (ih (n + 1))

/-- Leaving out repetitions leaves only values of the stream. -/
theorem only_distinct [Keyed γ] (key : α → γ) (seen : KeySet γ) (h : Only P Q stage) :
    Only P Q (distinct key seen stage) := by
  induction h generalizing seen with
  | done => exact .done
  | value hx _ ih =>
    rw [distinct]
    split
    · exact ih seen
    · exact .value hx (ih _)
  | failure _ ih => exact .failure (ih seen)
  | read _ ih => exact .read fun s hs => ih s hs seen
  | write hs _ ih => exact .write hs (ih seen)

/-- The pieces that a buffer cuts have the values of the stream. -/
theorem only_buffer (size count : Nat) {held : List α} (hheld : Each Q held) (h : Only P Q stage) :
    Only P (Each Q) (buffer size count held stage) := by
  have hrun : ∀ {xs : List α}, Each Q xs → Each Q xs.reverse := fun hxs x hx => hxs x (List.mem_reverse.1 hx)
  induction h generalizing count held with
  | done =>
    rw [buffer]
    split
    · exact .done
    · exact .value (hrun hheld) .done
  | value hx _ ih =>
    rw [buffer]
    split
    · exact .value (hrun (.cons hx hheld)) (ih 0 .nil)
    · exact ih _ (.cons hx hheld)
  | failure _ ih => exact .failure (ih 0 .nil)
  | read _ ih => exact .read fun s hs => ih s hs count hheld
  | write hs _ ih => exact .write hs (ih count hheld)

/-- A value that stands in for none has to have the property. -/
theorem only_defaultIfEmpty {x : α} (hx : Q x) (h : Only P Q stage) : Only P Q (defaultIfEmpty x stage) := by
  induction h with
  | done => exact .value hx .done
  | value hy hrest _ => exact .value hy hrest
  | failure hrest _ => exact .failure hrest
  | read _ ih => exact .read ih
  | write hs _ ih => exact .write hs ih

/-- The values that come in place of a failure have to have the property. -/
theorem only_recover {handler : ε → Stage σ ε α} (hh : ∀ e, Only P Q (handler e)) (h : Only P Q stage) :
    Only P Q (recover handler stage) := by
  induction h with
  | done => exact .done
  | value hx _ ih => exact .value hx ih
  | failure hrest _ => exact (hh _).append hrest.settle
  | read _ ih => exact .read ih
  | write hs _ ih => exact .write hs ih

/-- A peek has the property if it has it for every stream of such values. -/
theorem only_peek {f : Option α → Stage σ ε α → Stage σ ε β}
    (hf : ∀ first rest, Only P Q rest → Only P R (f first rest)) (h : Only P Q stage) : Only P R (peek f stage) := by
  induction h with
  | done => exact hf none _ .done
  | value hx hrest _ => exact hf _ _ (.value hx hrest)
  | failure _ _ => exact .fail _
  | read _ ih => exact .read ih
  | write hs _ ih => exact .write hs ih

/-- The values of a round, which a mark ends. -/
def InRound (Q : α → Prop) (x? : Option α) : Prop := ∀ x, x? = some x → Q x

/-- Going on with the rounds keeps the property of each turn. -/
theorem only_upToRound {next : Stage σ ε (Option α) → Stage σ ε (Option α)} {rounds : Stage σ ε (Option α)}
    (hnext : ∀ rest, Only P (InRound Q) rest → Only P (InRound Q) (next rest)) (h : Only P (InRound Q) rounds) :
    Only P (InRound Q) (upToRound next rounds) := by
  induction h with
  | done => exact .value nofun (hnext _ .done)
  | @value x? _ hx hrest ih =>
    cases x? with
    | none => exact .value hx (hnext _ hrest)
    | some x => exact .value hx ih
  | failure _ ih => exact .failure ih
  | read _ ih => exact .read ih
  | write hs _ ih => exact .write hs ih

/-- A stream that takes turns with others keeps it. -/
theorem only_takeTurns {rounds : Stage σ ε (Option α)} (h : Only P Q stage) (hr : Only P (InRound Q) rounds) :
    Only P (InRound Q) (takeTurns stage rounds) := by
  induction h generalizing rounds with
  | done => exact hr
  | @value x _ hx _ ih =>
    have hsome : InRound Q (some x) := by
      rintro y ⟨⟩
      exact hx
    exact .value hsome (only_upToRound (fun rest hrest => ih hrest) hr)
  | failure _ ih => exact .failure (only_upToRound (fun rest hrest => ih hrest) hr)
  | read _ ih => exact .read fun s hs => ih s hs hr
  | write hs _ ih => exact .write hs (ih hr)

/-- The values of merged streams are those of the streams. -/
theorem only_merge {stages : List (Stage σ ε α)} (h : ∀ stage ∈ stages, Only P Q stage) : Only P Q (merge stages) := by
  have hrounds : Only P (InRound Q) (stages.foldr takeTurns .done) := by
    induction stages with
    | nil => exact .done
    | cons stage stages ih =>
      obtain ⟨hstage, hstages⟩ := List.forall_mem_cons.1 h
      exact only_takeTurns hstage (ih hstages)
  exact only_filterMap (fun _ hx => hx) hrounds

end Streaming

/-! ## Operators that work on whole lists -/

namespace Vectorized

variable {stage : Stage σ ε α}

/-- The values of merged streams are those of the streams. -/
theorem only_materialize {f : List α → σ → Except ε (List β) × σ}
    (hf : ∀ xs s, Each Q xs → P s → Ends P True (Each R) (f xs s)) (h : Only P Q stage) :
    Only P R (materialize f stage) := by
  refine .read fun s hs => ?_
  have hends := h.runs s hs
  rcases hc : stage.collect s with ⟨e | xs, t⟩
  · rw [hc] at hends
    exact .write hends.1 (.fail e)
  · rw [hc] at hends
    exact .ofEnds (hf xs t hends.2 hends.1)

/-- What a function makes of a whole list has a property if it is made so. -/
theorem only_onList {f : List α → List β} (hf : ∀ xs, Each Q xs → Each R (f xs)) (h : Only P Q stage) :
    Only P R (onList f stage) :=
  only_materialize (fun xs _ hxs hs => ⟨hs, hf xs hxs⟩) h

/-- On whole lists, the values of a function that may fail come from those of the stage. -/
theorem only_tryMap {f : α → Except ε β} (hf : ∀ x, Q x → ∀ y, f x = .ok y → R y) (h : Only P Q stage) :
    Only P R (tryMap f stage) := by
  refine only_materialize (fun xs s hxs hs => ?_) h
  cases hr : xs.mapM f with
  | error e => exact ⟨hs, trivial⟩
  | ok ys =>
    refine ⟨hs, ?_⟩
    rw [(mapM_toOption xs).1 ys hr]
    refine Each.filterMap (fun x hx y hy => hf x hx y ?_) hxs
    cases hfx : f x with
    | error e =>
      rw [hfx] at hy
      cases hy
    | ok z =>
      rw [hfx] at hy
      cases hy
      rfl

/-- Going through a list step by step keeps the invariant and the property. -/
theorem ends_filterMapStep {f : α → σ → Except ε (Option β) × σ}
    (hf : ∀ x s, Q x → P s → Ends P True (fun y? => ∀ y, y? = some y → R y) (f x s)) {xs : List α} {s : σ}
    (hxs : Each Q xs) (hs : P s) : Ends P True (Each R) (filterMapStep f xs s) := by
  induction xs generalizing s with
  | nil => exact ⟨hs, .nil⟩
  | cons x xs ih =>
    obtain ⟨hx, hxs⟩ := List.forall_mem_cons.1 hxs
    have hends := hf x s hx hs
    rw [filterMapStep, filterMapOnto]
    rcases hy : f x s with ⟨e | _ | y, t⟩
    · rw [hy] at hends
      exact hends
    · rw [hy] at hends
      exact ih hxs hends.1
    · rw [hy] at hends
      have hrest := ih hxs hends.1
      dsimp only
      rw [filterMapOnto_eq]
      rcases hc : filterMapStep f xs t with ⟨e | ys, u⟩
      · rw [hc] at hrest
        exact hrest
      · rw [hc] at hrest
        exact ⟨hrest.1, .cons (hends.2 y rfl) hrest.2⟩

/-- Collecting one stage after another. -/
theorem ends_collectEach {f : α → Stage σ ε β} {xs : List α} (hf : ∀ x ∈ xs, Only P R (f x)) {s : σ} (hs : P s) :
    Ends P True (Each R) (collectEach f xs s) := by
  induction xs generalizing s with
  | nil => exact ⟨hs, .nil⟩
  | cons x xs ih =>
    obtain ⟨hx, hxs⟩ := List.forall_mem_cons.1 hf
    have hfirst := hx.runs s hs
    rw [collectEach_cons]
    rcases hc : (f x).collect s with ⟨e | ys, t⟩
    · rw [hc] at hfirst
      exact hfirst
    · rw [hc] at hfirst
      have hrest := ih hxs hfirst.1
      dsimp only
      rcases he : collectEach f xs t with ⟨e | zs, u⟩
      · rw [he] at hrest
        exact hrest
      · rw [he] at hrest
        exact ⟨hrest.1, hfirst.2.append hrest.2⟩

/-- On whole lists, merged stages have the property if each of them has it. -/
theorem only_mergeMap {f : α → Stage σ ε β} (hf : ∀ x, Q x → Only P R (f x)) (h : Only P Q stage) :
    Only P R (mergeMap f stage) :=
  only_materialize (fun _ _ hxs hs => ends_collectEach (fun x hx => hf x (hxs x hx)) hs) h

/-- Stages that are put together on whole lists have a property if each of them has it. -/
theorem only_merge {stages : List (Stage σ ε α)} (h : ∀ stage ∈ stages, Only P Q stage) : Only P Q (merge stages) :=
  .read fun _ hs => .ofEnds (ends_collectEach h hs)

/-- A stage with a handler has a property if the handler has it. -/
theorem only_recover {handler : ε → Stage σ ε α} (hh : ∀ e, Only P Q (handler e)) (h : Only P Q stage) :
    Only P Q (recover handler stage) := by
  refine .read fun s hs => ?_
  have hends := h.runs s hs
  rcases hc : stage.collect s with ⟨e | xs, t⟩
  · rw [hc] at hends
    exact .ofEnds ((hh e).runs t hends.1)
  · rw [hc] at hends
    exact .write hends.1 (.ofList hends.2)

/-- A peek has a property if what it goes on with has it. -/
theorem only_peek {f : Option α → Stage σ ε α → Stage σ ε β}
    (hf : ∀ first rest, Only P Q rest → Only P R (f first rest)) (h : Only P Q stage) : Only P R (peek f stage) :=
  only_materialize (fun xs s hxs hs => (hf xs.head? (Stage.ofList xs) (.ofList hxs)).runs s hs) h

/-- The first occurrences are some of the values, in their order. -/
theorem firstsFrom_sublist [Keyed γ] (key : α → γ) (seen : KeySet γ) (xs : List α) :
    (KeySet.firstsFrom key seen [] xs).Sublist xs := by
  induction xs generalizing seen with
  | nil => exact .slnil
  | cons x xs ih =>
    rw [KeySet.firstsFrom]
    split
    · exact (ih seen).cons x
    · rw [KeySet.firstsFrom_eq]
      exact (ih _).cons_cons x

/-- The pieces of a list have its values. -/
theorem each_chunksOnto {size : Nat} {found : List (List α)} {xs : List α} (fuel : Nat)
    (hfound : Each (Each Q) found) (hxs : Each Q xs) : Each (Each Q) (chunksOnto size found fuel xs) := by
  have hreverse : ∀ {found : List (List α)}, Each (Each Q) found → Each (Each Q) found.reverse :=
    fun hfound run hrun => hfound run (List.mem_reverse.1 hrun)
  induction fuel generalizing found xs with
  | zero => exact hreverse hfound
  | succ fuel ih =>
    rw [chunksOnto]
    split
    · exact hreverse hfound
    · have htake : Each Q (xs.take size) := fun x hx => hxs x (List.mem_of_mem_take hx)
      exact ih (.cons htake hfound) fun x hx => hxs x (List.mem_of_mem_drop hx)

end Vectorized

end Stage

/-! ## Operators of an engine -/

namespace Engine

open Stage

variable {σ ε α β γ : Type} {P : σ → Prop} {Q : α → Prop} {R : β → Prop} {stage : Stage σ ε α} (g : Engine)

/-- On either engine, the values of a mapped stage come from its values. -/
theorem only_map {f : α → β} (hf : ∀ x, Q x → R (f x)) (h : Only P Q stage) : Only P R (g.map f stage) := by
  cases g with
  | streaming => exact Streaming.only_map hf h
  | vectorized => exact Vectorized.only_onList (fun xs hxs => List.forall_mem_map.2 fun x hx => hf x (hxs x hx)) h

/-- On either engine, the values of a stage mapped with a function that may fail come from its values. -/
theorem only_tryMap {f : α → Except ε β} (hf : ∀ x, Q x → ∀ y, f x = .ok y → R y) (h : Only P Q stage) :
    Only P R (g.tryMap f stage) := by
  cases g with
  | streaming => exact Streaming.only_tryMap hf h
  | vectorized => exact Vectorized.only_tryMap hf h

/-- On either engine, mapping with values left out gives a property if the function does. -/
theorem only_filterMap {f : α → Option β} (hf : ∀ x, Q x → ∀ y, f x = some y → R y) (h : Only P Q stage) :
    Only P R (g.filterMap f stage) := by
  cases g with
  | streaming => exact Streaming.only_filterMap hf h
  | vectorized => exact Vectorized.only_onList (fun xs hxs => hxs.filterMap hf) h

/-- A filter leaves only values of the stage. -/
theorem only_filter (p : α → Bool) (h : Only P Q stage) : Only P Q (g.filter p stage) := by
  refine g.only_filterMap (fun x hx y hy => ?_) h
  split at hy
  · cases hy
    exact hx
  · cases hy

/-- A function that reads and writes the state may be used if it keeps the invariant. -/
theorem only_filterMapWithState {f : α → σ → Except ε (Option β) × σ}
    (hf : ∀ x s, Q x → P s → Ends P True (fun y? => ∀ y, y? = some y → R y) (f x s)) (h : Only P Q stage) :
    Only P R (g.filterMapWithState f stage) := by
  cases g with
  | streaming => exact Streaming.only_filterMapWithState hf h
  | vectorized => exact Vectorized.only_materialize (fun xs s hxs hs => Vectorized.ends_filterMapStep hf hxs hs) h

/-- A function that reads and writes the state and leaves no values out may be used if it keeps the invariant. -/
theorem only_mapWithState {f : α → σ → β × σ} (hf : ∀ x s, Q x → P s → R (f x s).1 ∧ P (f x s).2)
    (h : Only P Q stage) : Only P R (g.mapWithState f stage) := by
  refine g.only_filterMapWithState (fun x s hx hs => ?_) h
  obtain ⟨hy, ht⟩ := hf x s hx hs
  refine ⟨ht, ?_⟩
  rintro y ⟨⟩
  exact hy

/-- Merged stages have the property if each of them has it. -/
theorem only_mergeMap {f : α → Stage σ ε β} (hf : ∀ x, Q x → Only P R (f x)) (h : Only P Q stage) :
    Only P R (g.mergeMap f stage) := by
  cases g with
  | streaming => exact Streaming.only_mergeMap hf h
  | vectorized => exact Vectorized.only_mergeMap hf h

/-- A limit leaves only values of the stage. -/
theorem only_limit (n : Nat) (h : Only P Q stage) : Only P Q (g.limit n stage) := by
  cases g with
  | streaming => exact Streaming.only_limit n h
  | vectorized => exact Vectorized.only_onList (fun xs hxs x hx => hxs x (List.mem_of_mem_take hx)) h

/-- Skipping leaves only values of the stage. -/
theorem only_skip (n : Nat) (h : Only P Q stage) : Only P Q (g.skip n stage) := by
  cases g with
  | streaming => exact Streaming.only_skip n h
  | vectorized => exact Vectorized.only_onList (fun xs hxs x hx => hxs x (List.mem_of_mem_drop hx)) h

/-- Leaving out repetitions leaves only values of the stage. -/
theorem only_distinct [Keyed γ] (key : α → γ) (h : Only P Q stage) : Only P Q (g.distinct key stage) := by
  cases g with
  | streaming => exact Streaming.only_distinct key .empty h
  | vectorized =>
    exact Vectorized.only_onList (fun xs hxs x hx => hxs x ((Vectorized.firstsFrom_sublist key .empty xs).subset hx)) h

/-- The pieces of a buffer have the values of the stage. -/
theorem only_buffer (size : Nat) (h : Only P Q stage) : Only P (Each Q) (g.buffer size stage) := by
  cases g with
  | streaming => exact Streaming.only_buffer _ 0 .nil h
  | vectorized => exact Vectorized.only_onList (fun _ hxs => Vectorized.each_chunksOnto _ .nil hxs) h

/-- A gathered list has only values of the stage. -/
theorem only_gather (h : Only P Q stage) : Only P (Each Q) (g.gather stage) := by
  cases g with
  | streaming => exact Streaming.only_gather h
  | vectorized => exact Vectorized.only_onList (fun _ hxs => .cons hxs .nil) h

/-- A value for the empty stage needs the property. -/
theorem only_defaultIfEmpty {x : α} (hx : Q x) (h : Only P Q stage) : Only P Q (g.defaultIfEmpty x stage) := by
  cases g with
  | streaming => exact Streaming.only_defaultIfEmpty hx h
  | vectorized =>
    refine Vectorized.only_onList (fun _ hxs => ?_) h
    split
    · exact .cons hx .nil
    · exact hxs

/-- A handler needs the property on either engine. -/
theorem only_recover {handler : ε → Stage σ ε α} (hh : ∀ e, Only P Q (handler e)) (h : Only P Q stage) :
    Only P Q (g.recover handler stage) := by
  cases g with
  | streaming => exact Streaming.only_recover hh h
  | vectorized => exact Vectorized.only_recover hh h

/-- A peek has it if it has it for every stage of such values. -/
theorem only_peek {f : Option α → Stage σ ε α → Stage σ ε β}
    (hf : ∀ first rest, Only P Q rest → Only P R (f first rest)) (h : Only P Q stage) : Only P R (g.peek f stage) := by
  cases g with
  | streaming => exact Streaming.only_peek hf h
  | vectorized => exact Vectorized.only_peek hf h

/-- Stages that are put together have it if each of them has it. -/
theorem only_merge {stages : List (Stage σ ε α)} (h : ∀ stage ∈ stages, Only P Q stage) :
    Only P Q (g.merge stages) := by
  cases g with
  | streaming => exact Streaming.only_merge h
  | vectorized => exact Vectorized.only_merge h

/-- A rearranged stage has it if rearranging a list keeps it. -/
theorem only_rearrange {f : List α → List β} (hf : ∀ xs, Each Q xs → Each R (f xs)) (h : Only P Q stage) :
    Only P R (g.rearrange f stage) :=
  g.only_mergeMap (fun _ hys => .ofList hys) (g.only_map hf (g.only_gather h))

end Engine

end SparqlAlgebra

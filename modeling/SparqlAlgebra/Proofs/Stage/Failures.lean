import SparqlAlgebra.Proofs.Stage.Recover
import SparqlAlgebra.Proofs.Stage.RowWise

/-!
# Failures among the items of a run

A run goes on behind a failure, and only collecting stops there. So an operator that works item by item may drop a
failure as if it were a value, or leave something behind it, while on whole lists the first failure is all that there
is. What a stage comes to is read off the items of its run: the values, or the first failure. Both engines are compared
with that.
-/

namespace SparqlAlgebra

namespace Stage

variable {σ ε α β : Type}

/-! ## The first failure -/

/-- Without items there is no failure. -/
@[simp] theorem splitAtFailure_nil : splitAtFailure ([] : List (Except ε α)) = ([], none) := rfl

/-- A value comes before the failure. -/
@[simp] theorem splitAtFailure_ok (x : α) (items : List (Except ε α)) :
    splitAtFailure (.ok x :: items) = (x :: (splitAtFailure items).1, (splitAtFailure items).2) := by
  rw [splitAtFailure, splitOnto, splitOnto_eq]
  rfl

/-- A failure is where the items are split. -/
@[simp] theorem splitAtFailure_error (e : ε) (items : List (Except ε α)) :
    splitAtFailure (.error e :: items) = ([], some e) := rfl

/-- Values in front stay in front. -/
theorem splitAtFailure_append (xs : List α) (items : List (Except ε α)) :
    splitAtFailure (xs.map .ok ++ items) = (xs ++ (splitAtFailure items).1, (splitAtFailure items).2) := by
  induction xs with
  | nil => rfl
  | cons x xs ih => rw [List.map_cons, List.cons_append, splitAtFailure_ok, ih]; rfl

/-- Among values there is no failure. -/
theorem splitAtFailure_values (xs : List α) : splitAtFailure (xs.map .ok : List (Except ε α)) = (xs, none) := by
  simpa using splitAtFailure_append (ε := ε) xs []

/-- The first failure is found behind the values. -/
theorem splitAtFailure_failure (xs : List α) (e : ε) (later : List (Except ε α)) :
    splitAtFailure (xs.map .ok ++ .error e :: later) = (xs, some e) := by
  simp [splitAtFailure_append]

/-- There are only values among the items, or values and then a failure. -/
theorem values_or_failure (items : List (Except ε α)) :
    (∃ xs : List α, items = xs.map .ok) ∨ ∃ (xs : List α) (e : ε) (later : List (Except ε α)),
      items = xs.map .ok ++ .error e :: later := by
  induction items with
  | nil => exact .inl ⟨[], rfl⟩
  | cons x items ih =>
    cases x with
    | error e => exact .inr ⟨[], e, items, rfl⟩
    | ok x =>
      obtain ⟨xs, rfl⟩ | ⟨xs, e, later, rfl⟩ := ih
      · exact .inl ⟨x :: xs, rfl⟩
      · exact .inr ⟨x :: xs, e, later, rfl⟩

/-- What the items of a run come to: the values, or the first failure. -/
def outcome (items : List (Except ε α)) : Except ε (List α) :=
  match splitAtFailure items with
  | (xs, none) => .ok xs
  | (_, some e) => .error e

/-- The outcome of values is their list. -/
theorem outcome_values (xs : List α) : outcome (xs.map .ok : List (Except ε α)) = .ok xs := by
  rw [outcome, splitAtFailure_values]

/-- The outcome of a failure behind values is this failure. -/
theorem outcome_failure (xs : List α) (e : ε) (later : List (Except ε α)) :
    outcome (xs.map .ok ++ .error e :: later) = .error e := by
  rw [outcome, splitAtFailure_failure]

/-- Only values have a list as their outcome. -/
theorem outcome_eq_ok_iff {items : List (Except ε α)} {xs : List α} :
    outcome items = .ok xs ↔ items = xs.map .ok := by
  obtain ⟨ys, rfl⟩ | ⟨ys, e, later, rfl⟩ := values_or_failure items
  · rw [outcome_values, Except.ok.injEq]
    exact ⟨fun h => h ▸ rfl, fun h => (List.map_inj_right fun _ _ => Except.ok.inj).1 h⟩
  · rw [outcome_failure]
    refine ⟨nofun, fun h => ?_⟩
    rw [← outcome_values (ε := ε) xs, ← h, outcome_failure]

/-- Any failure among the items makes them come to a failure. -/
theorem outcome_eq_error_iff {items : List (Except ε α)} :
    (∃ e, outcome items = .error e) ↔ ∃ e, .error e ∈ items := by
  obtain ⟨xs, rfl⟩ | ⟨xs, e, later, rfl⟩ := values_or_failure items
  · simp [outcome_values]
  · simp [outcome_failure]

/-- Collecting a stage gives what the items of its run come to. -/
theorem collect_eq_outcome (stage : Stage σ ε α) (s : σ) : (stage.collect s).1 = outcome (stage.run s).1 := by
  obtain ⟨xs, h⟩ | ⟨xs, e, later, h⟩ := values_or_failure (stage.run s).1
  · rw [collect_of_run_values h, h, outcome_values]
  · rw [collect_of_run_failure h, h, outcome_failure]

/-- A stage that is collected without a failure has run to its end. -/
theorem run_of_collect {stage : Stage σ ε α} {xs : List α} {s t : σ} (h : stage.collect s = (.ok xs, t)) :
    stage.run s = (xs.map .ok, t) := by
  have hitems : (stage.run s).1 = xs.map .ok := by
    rw [← outcome_eq_ok_iff, ← collect_eq_outcome, h]
  have hcollect := collect_of_run_values hitems
  rw [h] at hcollect
  exact Prod.ext hitems (Prod.ext_iff.1 hcollect).2.symm

/-- A stage that is collected with a failure has it in its run, behind values only. -/
theorem run_of_collect_error {stage : Stage σ ε α} {e : ε} {s : σ} (h : (stage.collect s).1 = .error e) :
    ∃ (xs : List α) (later : List (Except ε α)), (stage.run s).1 = xs.map .ok ++ .error e :: later := by
  rw [collect_eq_outcome] at h
  obtain ⟨xs, hrun⟩ | ⟨xs, e', later, hrun⟩ := values_or_failure (stage.run s).1
  · rw [hrun, outcome_values] at h
    cases h
  · rw [hrun, outcome_failure] at h
    cases h
    exact ⟨xs, later, hrun⟩

/-- Mapping a list with a function that may fail gives what its results come to. -/
theorem mapM_eq_outcome (f : α → Except ε β) (xs : List α) : xs.mapM f = outcome (xs.map f) := by
  induction xs with
  | nil => rfl
  | cons x xs ih =>
    rw [List.mapM_cons, ih, List.map_cons]
    cases f x with
    | error e => rfl
    | ok y =>
      rw [outcome, outcome, splitAtFailure_ok]
      rcases splitAtFailure (xs.map f) with ⟨ys, _ | e⟩
      · rfl
      · rfl

/-! ## Runs of operators -/

/-- Values are the items of a list. -/
theorem ofItems_values (xs : List α) : (ofItems (xs.map .ok) : Stage σ ε α) = ofList xs := by
  induction xs with
  | nil => rfl
  | cons x xs ih => rw [List.map_cons, ofItems, ofList, ih]

/-- A stage of items has these and leaves the state alone. -/
theorem run_ofItems (items : List (Except ε α)) (s : σ) : (ofItems items).run s = (items, s) := by
  induction items with
  | nil => rfl
  | cons x items ih => rw [ofItems, run_item, run_read, ih]

/-- A stage of values has these and leaves the state alone. -/
theorem run_ofList (xs : List α) (s : σ) : (ofList xs : Stage σ ε α).run s = (xs.map .ok, s) := by
  rw [← ofItems_values, run_ofItems]

/-- A stage behind another one is run from where that ends. -/
theorem run_append (a b : Stage σ ε α) (s : σ) :
    (a.append b).run s = ((a.run s).1 ++ (b.run (a.run s).2).1, (b.run (a.run s).2).2) := by
  induction a generalizing s with
  | done => rfl
  | item x rest ih => simp [append, ih]
  | read next ih => exact ih s s
  | write t rest ih => exact ih t

namespace Streaming

/-- Failures are dropped like values. -/
theorem run_skip (n : Nat) (stage : Stage σ ε α) (s : σ) :
    (skip n stage).run s = ((stage.run s).1.drop n, (stage.run s).2) := by
  induction stage generalizing n s with
  | done => cases n <;> rfl
  | item x rest ih =>
    cases n with
    | zero => rfl
    | succ n => rw [skip, ih, run_item, List.drop_succ_cons]
  | read next ih =>
    cases n with
    | zero => rfl
    | succ n => exact ih s (n + 1) s
  | write t rest ih =>
    cases n with
    | zero => rfl
    | succ n => exact ih (n + 1) t

/-- Each item is mapped by itself. -/
theorem run_tryMap (f : α → Except ε β) (stage : Stage σ ε α) (s : σ) :
    (tryMap f stage).run s = ((stage.run s).1.map (· >>= f), (stage.run s).2) := by
  induction stage generalizing s with
  | done => rfl
  | item x rest ih =>
    cases x with
    | error e => rw [tryMap, run_item, run_item, ih]; rfl
    | ok x => rw [tryMap, run_item, run_item, ih]; rfl
  | read next ih => exact ih s s
  | write t rest ih => exact ih t

end Streaming

namespace Vectorized

/-- What is done with a list is done with what is collected. -/
theorem collect_onList (f : List α → List β) (stage : Stage σ ε α) (s : σ) :
    (onList f stage).collect s = ((stage.collect s).1.map f, (stage.collect s).2) := by
  rw [onList, materialize, collect_read]
  rcases stage.collect s with ⟨e | xs, t⟩
  · rfl
  · exact collect_ofList (f xs) t

/-- On whole lists, mapping with a function that may fail has the items of its outcome for the list. -/
theorem run_tryMap_eq_ofExcept (f : α → Except ε β) (xs : List α) (s : σ) :
    (tryMap f (ofList xs)).run s = ((ofExcept (xs.mapM f) : Stage σ ε β).run s) := by
  rw [tryMap, materialize, run_read, collect_ofList]
  rfl

/-- Merging on whole lists fails with the failure of the stage. -/
theorem collect_mergeMap_of_error (f : α → Stage σ ε β) {stage : Stage σ ε α} {e : ε} {s : σ}
    (h : (stage.collect s).1 = .error e) : ((mergeMap f stage).collect s).1 = .error e := by
  rw [mergeMap, materialize, collect_read, show stage.collect s = (.error e, (stage.collect s).2) from Prod.ext h rfl]
  rfl

/-- Merging over values collects a stage for each. -/
theorem collect_mergeMap_ofList (f : α → Stage σ ε β) (xs : List α) (s : σ) :
    (mergeMap f (ofList xs)).collect s = collectEach f xs s := by
  rw [mergeMap, materialize, collect_read, collect_ofList]
  rcases hc : collectEach f xs s with ⟨e | ys, t⟩
  · simp [hc, ofExcept, fail]
  · simp [hc, ofExcept, collect_ofList]

end Vectorized

/-! ## Collecting stage by stage -/

/-- The values of the stages made of the given values, each collected by itself in the state that the one before it has
left. A stage that fails has none. -/
def collectApart (f : α → Stage σ ε β) : List α → σ → List β × σ
  | [], s => ([], s)
  | x :: xs, s =>
    let (r, s) := (f x).collect s
    let (ys, s) := collectApart f xs s
    (r.toOption.getD [] ++ ys, s)

/-- If no state matters to the stages, it does not matter which of them have come before. -/
theorem collectApart_of_selfSimilar {P : σ → Prop} {f : α → Stage σ ε β} {xs : List α} {s t : σ} (hs : P s) (ht : P t)
    (h : ∀ x ∈ xs, SelfSimilar (Both P) (f x)) :
    (collectApart f xs t).1 = xs.flatMap fun x => ((f x).collect s).1.toOption.getD [] := by
  induction xs generalizing t with
  | nil => rfl
  | cons x xs ih =>
    obtain ⟨hvalues, hafter⟩ := (h x List.mem_cons_self).collect ⟨ht, hs⟩
    have hrest := ih hafter.1 fun y hy => h y (List.mem_cons_of_mem x hy)
    rw [collectApart, List.flatMap_cons, ← hrest, ← hvalues]

section CollectEach

open Vectorized

variable {f : α → Stage σ ε β} {before : List α} {answered : List β} {s t : σ}

/-- If collecting a stage for each value succeeds, it does for the first one and then for the others. -/
theorem collectEach_cons_eq_ok {x : α} {xs : List α} {ys : List β} (h : collectEach f (x :: xs) s = (.ok ys, t)) :
    ∃ zs ws u, (f x).collect s = (.ok zs, u) ∧ collectEach f xs u = (.ok ws, t) ∧ ys = zs ++ ws := by
  rw [collectEach_cons] at h
  rcases hx : (f x).collect s with ⟨e | zs, u⟩
  · rw [hx] at h
    cases h
  · rw [hx] at h
    dsimp only at h
    rcases hxs : collectEach f xs u with ⟨e | ws, v⟩
    · rw [hxs] at h
      cases h
    · rw [hxs] at h
      cases h
      exact ⟨zs, ws, u, rfl, hxs, rfl⟩

/-- All of the stages answer, or a first one fails. -/
theorem all_answered_or_first_fails (f : α → Stage σ ε β) (xs : List α) (s : σ) :
    (∃ ys t, collectEach f xs s = (.ok ys, t)) ∨ ∃ before x after answered t e, xs = before ++ x :: after ∧
      collectEach f before s = (.ok answered, t) ∧ ((f x).collect t).1 = .error e := by
  induction xs generalizing s with
  | nil => exact .inl ⟨[], s, rfl⟩
  | cons x xs ih =>
    rcases hx : (f x).collect s with ⟨e | zs, u⟩
    · exact .inr ⟨[], x, xs, [], s, e, rfl, rfl, by rw [hx]⟩
    · obtain ⟨ws, t, hws⟩ | ⟨before, y, after, answered, t, e, rfl, hbefore, hy⟩ := ih u
      · refine .inl ⟨zs ++ ws, t, ?_⟩
        rw [collectEach_cons, hx]
        dsimp only
        rw [hws]
        rfl
      · refine .inr ⟨x :: before, y, after, zs ++ answered, t, e, rfl, ?_, hy⟩
        rw [collectEach_cons, hx]
        dsimp only
        rw [hbefore]
        rfl

/-- Collecting for more values goes on from where it got to. -/
theorem collectEach_append (h : collectEach f before s = (.ok answered, t)) (after : List α) :
    collectEach f (before ++ after) s =
      ((collectEach f after t).1.map (answered ++ ·), (collectEach f after t).2) := by
  induction before generalizing s answered with
  | nil =>
    cases h
    rw [List.nil_append]
    rcases collectEach f after t with ⟨e | ys, u⟩
    · rfl
    · rfl
  | cons x before ih =>
    obtain ⟨zs, ws, u, hx, hws, rfl⟩ := collectEach_cons_eq_ok h
    rw [List.cons_append, collectEach_cons, hx]
    dsimp only
    rw [ih hws]
    rcases collectEach f after t with ⟨e | ys, u⟩
    · rfl
    · simp [Except.map]

/-- Failures apart, collecting for more values goes on from where it got to. -/
theorem collectApart_append (h : collectEach f before s = (.ok answered, t)) (after : List α) :
    collectApart f (before ++ after) s = (answered ++ (collectApart f after t).1, (collectApart f after t).2) := by
  induction before generalizing s answered with
  | nil =>
    cases h
    rfl
  | cons x before ih =>
    obtain ⟨zs, ws, u, hx, hws, rfl⟩ := collectEach_cons_eq_ok h
    rw [List.cons_append, collectApart, hx]
    dsimp only
    rw [ih hws, List.append_assoc]
    rfl

/-- Item by item, the values of the stages that answer come first, whatever follows, be it a failure. -/
theorem Streaming.run_mergeMap_ofItems (h : collectEach f before s = (.ok answered, t)) (later : List (Except ε α)) :
    (Streaming.mergeMap f (ofItems (before.map .ok ++ later))).run s =
      (answered.map .ok ++ ((Streaming.mergeMap f (ofItems later)).run t).1,
        ((Streaming.mergeMap f (ofItems later)).run t).2) := by
  induction before generalizing s answered with
  | nil =>
    cases h
    rfl
  | cons x before ih =>
    obtain ⟨zs, ws, u, hx, hws, rfl⟩ := collectEach_cons_eq_ok h
    rw [List.map_cons, List.cons_append, ofItems, Streaming.mergeMap, run_append, run_of_collect hx,
      Streaming.mergeMap, run_read, ih hws, List.map_append, List.append_assoc]

/-- Merging streams over more values goes on behind the items of the first ones. -/
theorem Streaming.run_mergeMap_append (h : collectEach f before s = (.ok answered, t)) (after : List α) :
    (Streaming.mergeMap f (ofList (before ++ after))).run s =
      (answered.map .ok ++ ((Streaming.mergeMap f (ofList after)).run t).1,
        ((Streaming.mergeMap f (ofList after)).run t).2) := by
  have hrun := run_mergeMap_ofItems h (after.map .ok)
  rwa [← List.map_append, ofItems_values, ofItems_values] at hrun

end CollectEach

/-! ## The end of a run -/

/-- Nothing comes behind a failure, so there is one at most. -/
def EndsAtFailure (items : List (Except ε α)) : Prop :=
  ∀ before e after, items = before ++ .error e :: after → after = []

/-- Items end at a failure if nothing comes behind it. -/
theorem endsAtFailure_iff {xs : List α} {e : ε} {later : List (Except ε α)} :
    EndsAtFailure (xs.map .ok ++ .error e :: later) ↔ later = [] := by
  refine ⟨fun h => h _ e later rfl, ?_⟩
  rintro rfl before e' after h
  obtain rfl | ⟨front, x, rfl⟩ := List.eq_nil_or_concat after
  · rfl
  · -- Without its last item the run has only values, but the failure is still there.
    have hfront : xs.map .ok = before ++ .error e' :: front := by
      have hlast := congrArg List.dropLast h
      rwa [List.dropLast_concat, List.concat_eq_append, ← List.cons_append, ← List.append_assoc,
        List.dropLast_concat] at hlast
    have hmem : (.error e' : Except ε α) ∈ xs.map .ok := by
      rw [hfront]
      simp
    simp at hmem

end Stage

namespace Engine

open Stage

variable {σ ε α β : Type}

/-! ## Dropping items -/

/-- One stage delivers what another one delivers behind its first `n` items. It fails with the same failure if that is
not among these, and otherwise just if the engine works on whole lists or another failure comes behind them. -/
structure Offsets (g : Engine) (n : Nat) (stage sliced : Stage σ ε α) (s : σ) : Prop where
  /-- Without a failure the first `n` values are missing. -/
  values : ∀ xs, (stage.collect s).1 = .ok xs → (sliced.collect s).1 = .ok (xs.drop n)
  /-- A failure behind them stays the failure, and on whole lists any failure does. -/
  failure : ∀ (xs : List α) (e : ε) (later : List (Except ε α)), (stage.run s).1 = xs.map .ok ++ .error e :: later →
    g = .vectorized ∨ n ≤ xs.length → (sliced.collect s).1 = .error e
  /-- Besides, the other stage fails just on whole lists or if a failure comes behind the first `n` items. -/
  fails_iff : ∀ e, (stage.collect s).1 = .error e →
    ((∃ f, (sliced.collect s).1 = .error f) ↔ g = .vectorized ∨ ∃ f, .error f ∈ (stage.run s).1.drop n)

/-- With an offset of zero the stage itself is what is left. -/
theorem offsets_zero (g : Engine) (stage : Stage σ ε α) (s : σ) : g.Offsets 0 stage stage s := by
  refine ⟨fun xs h => h, fun xs e later h _ => collect_of_run_failure h, fun e h => ⟨fun _ => .inr ?_, fun _ => ⟨e, h⟩⟩⟩
  rw [List.drop_zero, ← outcome_eq_error_iff, ← collect_eq_outcome]
  exact ⟨e, h⟩

/-- Skipping leaves what an offset leaves, failures apart. -/
theorem offsets_skip (g : Engine) (n : Nat) (stage : Stage σ ε α) (s : σ) :
    g.Offsets n stage (g.skip n stage) s := by
  cases g with
  | streaming =>
    have hskip : ((streaming.skip n stage).collect s).1 = outcome ((stage.run s).1.drop n) := by
      rw [collect_eq_outcome, skip, Streaming.run_skip]
    refine ⟨fun xs h => ?_, fun xs e later h hn => ?_, fun e _ => ?_⟩
    · rw [collect_eq_outcome, outcome_eq_ok_iff] at h
      rw [hskip, h, ← List.map_drop, outcome_values]
    · have hle : n ≤ (xs.map (Except.ok : α → Except ε α)).length := by simpa using hn
      rw [hskip, h, List.drop_append_of_le_length hle, ← List.map_drop, outcome_failure]
    · rw [hskip, outcome_eq_error_iff]
      simp
  | vectorized =>
    have hskip : ((vectorized.skip n stage).collect s).1 = (stage.collect s).1.map (List.drop n) := by
      rw [skip, Vectorized.collect_onList]
    refine ⟨fun xs h => ?_, fun xs e later h _ => ?_, fun e h => ?_⟩
    · rw [hskip, h]
      rfl
    · rw [hskip, collect_of_run_failure h]
      rfl
    · rw [hskip, h]
      exact ⟨fun _ => .inl rfl, fun _ => ⟨e, rfl⟩⟩

/-! ## Failing callbacks -/

/-- Without a failure of the callback all its values come out. Otherwise the first failure that comes out is that of the
first value on which the callback fails. Nothing comes behind it just if the engine works on whole lists or no value is
left; item by item, the callback goes on with the values that are left. -/
theorem run_tryMap_ofList (g : Engine) (f : α → Except ε β) (xs : List α) (s : σ) :
    let items := ((g.tryMap f (Stage.ofList xs)).run s).1
    (∀ ys : List β, xs.map f = ys.map .ok → items = ys.map .ok) ∧
    ∀ before x after (ys : List β) e, xs = before ++ x :: after → before.map f = ys.map .ok → f x = .error e →
      items = (match g with
        | .streaming => ys.map .ok ++ .error e :: after.map f
        | .vectorized => [.error e]) ∧
      (splitAtFailure items).2 = some e ∧ (EndsAtFailure items ↔ g = .vectorized ∨ after = []) := by
  intro items
  cases g with
  | streaming =>
    have hitems : items = xs.map f := by
      have hrun := congrArg Prod.fst (Streaming.run_tryMap f (Stage.ofList xs) s)
      rw [run_ofList, List.map_map] at hrun
      exact hrun
    refine ⟨fun ys h => hitems.trans h, ?_⟩
    rintro before x after ys e rfl hbefore hx
    have hsplit : items = ys.map .ok ++ .error e :: after.map f := by
      rw [hitems, List.map_append, List.map_cons, hbefore, hx]
    rw [hsplit, splitAtFailure_failure, endsAtFailure_iff, List.map_eq_nil_iff]
    simp
  | vectorized =>
    have hitems : items = ((ofExcept (outcome (xs.map f)) : Stage σ ε β).run s).1 := by
      rw [← mapM_eq_outcome]
      exact congrArg Prod.fst (Vectorized.run_tryMap_eq_ofExcept f xs s)
    refine ⟨fun ys h => ?_, ?_⟩
    · rw [hitems, h, outcome_values, Stage.ofExcept, run_ofList]
    · rintro before x after ys e rfl hbefore hx
      have hsingle : items = ([] : List β).map .ok ++ .error e :: [] := by
        rw [hitems, List.map_append, List.map_cons, hbefore, hx, outcome_failure]
        rfl
      rw [hsingle, splitAtFailure_failure, endsAtFailure_iff]
      simp

/-- The first of two values fails: item by item, the second one still comes. -/
theorem run_tryMap_ofList_first :
    let f : Nat → Except String Nat := fun x => if x = 1 then .error "failed" else .ok x
    let items : Engine → List (Except String Nat) := fun g => ((g.tryMap f (Stage.ofList [1, 2])).run ()).1
    [1, 2] = [] ++ 1 :: [2] ∧ ([] : List Nat).map f = ([] : List Nat).map .ok ∧ f 1 = .error "failed" ∧
      items .streaming = [.error "failed", .ok 2] ∧ ¬ EndsAtFailure (items .streaming) ∧
      items .vectorized = [.error "failed"] ∧ EndsAtFailure (items .vectorized) := by
  intro f items
  have hfirst := fun g : Engine => (run_tryMap_ofList g f [1, 2] ()).2 [] 1 [2] [] "failed" rfl rfl rfl
  refine ⟨rfl, rfl, rfl, (hfirst .streaming).1, fun h => ?_, (hfirst .vectorized).1,
    (hfirst .vectorized).2.2.2 (.inl rfl)⟩
  obtain h | h := (hfirst .streaming).2.2.1 h
  · exact absurd h (by decide)
  · exact absurd h (by decide)

/-! ## Ending at the first failure -/

/-- What is left of the items of a run that is to end at its first failure: the values before it or, on whole lists,
nothing if there is one. -/
def kept : Engine → List (Except ε α) → List α
  | .streaming, items => (splitAtFailure items).1
  | .vectorized, items => (outcome items).toOption.getD []

/-- With nothing in the place of a failure a stage does not fail, and it delivers what is left. -/
theorem collect_recover_done (g : Engine) (stage : Stage σ ε α) (s : σ) :
    ((g.recover (fun _ => .done) stage).collect s).1 = .ok (g.kept (stage.run s).1) := by
  obtain ⟨xs, h⟩ | ⟨xs, e, later, h⟩ := values_or_failure (stage.run s).1
  · have hcollect := collect_of_run_values h
    cases g with
    | streaming => rw [recover, Streaming.recover_of_values _ h, hcollect, kept, h, splitAtFailure_values]
    | vectorized =>
      rw [recover, Vectorized.recover_of_ok _ hcollect, kept, h, outcome_values]
      rfl
  · cases g with
    | streaming =>
      rw [recover, Streaming.recover_of_failure _ h, kept, h, splitAtFailure_failure, collect_done]
      simp [Except.map]
    | vectorized =>
      have hcollect : stage.collect s = (.error e, (stage.collect s).2) := Prod.ext (collect_of_run_failure h) rfl
      rw [recover, Vectorized.recover_of_error _ hcollect, kept, h, outcome_failure]
      rfl

section MergeMap

variable {f : α → Stage σ ε β} {xs before after : List α} {x : α} {ys answered : List β} {e : ε} {s t : σ}

/-- If every merged stage succeeds, the values that are kept are theirs. -/
theorem kept_mergeMap_of_ok (g : Engine) (h : Vectorized.collectEach f xs s = (.ok ys, t)) :
    g.kept ((g.mergeMap f (Stage.ofList xs)).run s).1 = ys := by
  cases g with
  | streaming =>
    have hrun := congrArg Prod.fst (Streaming.run_mergeMap_append h [])
    rw [List.append_nil] at hrun
    rw [mergeMap, hrun, kept, Stage.ofList, Streaming.mergeMap, run_done, List.append_nil, splitAtFailure_values]
  | vectorized => rw [mergeMap, kept, ← collect_eq_outcome, Vectorized.collect_mergeMap_ofList, h]; rfl

/-- If a first stage fails, what it has delivered up to then is left item by item, and nothing on whole lists. -/
theorem kept_mergeMap_of_error (g : Engine) (h : Vectorized.collectEach f before s = (.ok answered, t))
    (hx : ((f x).collect t).1 = .error e) :
    g.kept ((g.mergeMap f (Stage.ofList (before ++ x :: after))).run s).1 = match g with
      | .streaming => answered ++ (splitAtFailure ((f x).run t).1).1
      | .vectorized => [] := by
  cases g with
  | streaming =>
    obtain ⟨zs, later, hzs⟩ := run_of_collect_error hx
    rw [mergeMap, kept, Streaming.run_mergeMap_append h, Stage.ofList, Streaming.mergeMap, run_append, hzs,
      splitAtFailure_append]
    simp [splitAtFailure_append]
  | vectorized =>
    have hcollect : (f x).collect t = (.error e, ((f x).collect t).2) := Prod.ext hx rfl
    rw [mergeMap, kept, ← collect_eq_outcome, Vectorized.collect_mergeMap_ofList, collectEach_append h,
      Vectorized.collectEach_cons, hcollect]
    rfl

/-- If the values themselves end in a failure, that is the failure of all; what was delivered up to then is left item by
item, and nothing on whole lists. -/
theorem mergeMap_ofItems_failure (g : Engine) (h : Vectorized.collectEach f before s = (.ok answered, t))
    (later : List (Except ε α)) :
    let stage := g.mergeMap f (Stage.ofItems (before.map .ok ++ .error e :: later))
    (stage.collect s).1 = .error e ∧ g.kept (stage.run s).1 = match g with
      | .streaming => answered
      | .vectorized => [] := by
  intro stage
  cases g with
  | streaming =>
    have hrun : (stage.run s).1 =
        answered.map .ok ++ .error e :: ((Streaming.mergeMap f (Stage.ofItems later)).run t).1 := by
      have hitems := congrArg Prod.fst (Streaming.run_mergeMap_ofItems h (.error e :: later))
      rwa [Stage.ofItems, Streaming.mergeMap, run_item, Streaming.mergeMap, run_read] at hitems
    exact ⟨collect_of_run_failure hrun, by rw [kept, hrun, splitAtFailure_failure]⟩
  | vectorized =>
    have hsource : ((Stage.ofItems (before.map .ok ++ .error e :: later) : Stage σ ε α).collect s).1 = .error e := by
      rw [collect_eq_outcome, run_ofItems, outcome_failure]
    have hcollect : (stage.collect s).1 = .error e := Vectorized.collect_mergeMap_of_error f hsource
    refine ⟨hcollect, ?_⟩
    rw [kept, ← collect_eq_outcome, hcollect]
    rfl

end MergeMap

/-- Ending at the first failure costs nothing: if one of the stages fails, the later ones, each collected by itself,
have just the values that the failing one leaves in front of its failure; on whole lists no other stage has values. -/
def LosesNothing (g : Engine) (f : α → Stage σ ε β) (xs : List α) (s : σ) : Prop :=
  ∀ before x after answered t, xs = before ++ x :: after → Vectorized.collectEach f before s = (.ok answered, t) →
    (∃ e, ((f x).collect t).1 = .error e) →
      let rest := (collectApart f after ((f x).collect t).2).1
      match g with
      | .streaming => (splitAtFailure ((f x).run t).1).1.Perm rest
      | .vectorized => answered = [] ∧ rest = []

/-- If one of them fails, what is kept has the values of all others if and only if, in a stream, the values before the
failure are those behind it, and on whole lists there are none at all. -/
theorem perm_collectApart_iff_of_error (g : Engine) {f : α → Stage σ ε β} {before after : List α} {x : α}
    {answered : List β} {e : ε} {s t : σ} (h : Vectorized.collectEach f before s = (.ok answered, t))
    (hx : ((f x).collect t).1 = .error e) :
    (g.kept ((g.mergeMap f (Stage.ofList (before ++ x :: after))).run s).1).Perm
        (collectApart f (before ++ x :: after) s).1 ↔
      let rest := (collectApart f after ((f x).collect t).2).1
      match g with
      | .streaming => (splitAtFailure ((f x).run t).1).1.Perm rest
      | .vectorized => answered = [] ∧ rest = [] := by
  have hapart : (collectApart f (before ++ x :: after) s).1 =
      answered ++ (collectApart f after ((f x).collect t).2).1 := by
    rw [collectApart_append h, collectApart]
    dsimp only
    rw [hx]
    rfl
  rw [kept_mergeMap_of_error g h hx, hapart]
  cases g with
  | streaming => exact List.perm_append_left_iff answered
  | vectorized => exact List.nil_perm.trans List.append_eq_nil_iff

/-- What is left is what the stages have by themselves, in some order, just if ending at the first failure costs
nothing. -/
theorem perm_collectApart_iff (g : Engine) (f : α → Stage σ ε β) (xs : List α) (s : σ) :
    (g.kept ((g.mergeMap f (Stage.ofList xs)).run s).1).Perm (collectApart f xs s).1 ↔ g.LosesNothing f xs s := by
  constructor
  · rintro hperm before x after answered t rfl hbefore ⟨e, hx⟩
    exact (perm_collectApart_iff_of_error g hbefore hx).1 hperm
  · intro h
    -- Only the first stage that fails matters: what comes behind it is not left in either engine.
    obtain ⟨ys, t, hall⟩ | ⟨before, x, after, answered, t, e, rfl, hbefore, hx⟩ := all_answered_or_first_fails f xs s
    · have hapart := congrArg Prod.fst (collectApart_append hall [])
      rw [List.append_nil] at hapart
      rw [kept_mergeMap_of_ok g hall, hapart, collectApart, List.append_nil]
    · exact (perm_collectApart_iff_of_error g hbefore hx).2 (h before x after answered t rfl hbefore ⟨e, hx⟩)

end Engine

end SparqlAlgebra

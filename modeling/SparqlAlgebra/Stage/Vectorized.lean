import SparqlAlgebra.KeySet
import SparqlAlgebra.Stage.Basic

/-!
# Operators that work on whole lists

Each operator first runs its input to the end. The first failure of the input is all that is left of it.
-/

namespace SparqlAlgebra

namespace Stage

namespace Vectorized

variable {σ ε α β : Type}

/-- Runs a stage to its end and goes on with what is made of its values and the state. -/
def materialize (f : List α → σ → Except ε (List β) × σ) (stage : Stage σ ε α) : Stage σ ε β :=
  .read fun s =>
    match stage.collect s with
    | (.ok xs, s) => let (r, s) := f xs s; .write s (ofExcept r)
    | (.error e, s) => .write s (fail e)

/-- Replaces the list of all values by another one. -/
def onList (f : List α → List β) : Stage σ ε α → Stage σ ε β :=
  materialize fun xs s => (.ok (f xs), s)

/-- Applies a function that may fail up to its first failure. -/
def tryMap (f : α → Except ε β) : Stage σ ε α → Stage σ ε β :=
  materialize fun xs s => (xs.mapM f, s)

/-- Applies a function that uses and changes the state, up to its first failure. `found` are the results so
far, the last one first. -/
def filterMapOnto (f : α → σ → Except ε (Option β) × σ) (found : List β) :
    List α → σ → Except ε (List β) × σ
  | [], s => (.ok found.reverse, s)
  | x :: xs, s =>
    match f x s with
    | (.error e, s) => (.error e, s)
    | (.ok none, s) => filterMapOnto f found xs s
    | (.ok (some y), s) => filterMapOnto f (y :: found) xs s

/-- Applies a function that uses and changes the state, up to its first failure. -/
def filterMapStep (f : α → σ → Except ε (Option β) × σ) (xs : List α) (s : σ) : Except ε (List β) × σ :=
  filterMapOnto f [] xs s

/-- What has been found already comes first. -/
theorem filterMapOnto_eq (f : α → σ → Except ε (Option β) × σ) (found : List β) (xs : List α) (s : σ) :
    filterMapOnto f found xs s =
      ((filterMapStep f xs s).1.map (found.reverse ++ ·), (filterMapStep f xs s).2) := by
  unfold filterMapStep
  induction xs generalizing found s with
  | nil => simp [filterMapOnto, Except.map]
  | cons x xs ih =>
    unfold filterMapOnto
    rcases f x s with ⟨_ | _ | y, t⟩
    · rfl
    · exact ih found t
    · simp only [ih (y :: found) t, ih [y] t]
      cases (filterMapOnto f [] xs t).1 <;> simp [Except.map]

/-- The values of the stages made of the given values, up to the first failure, in front of those found
before, the last one first. -/
def collectEachOnto (f : α → Stage σ ε β) (found : List β) : List α → σ → Except ε (List β) × σ
  | [], s => (.ok found.reverse, s)
  | x :: xs, s =>
    match (f x).collectOnto found s with
    | (.error e, s) => (.error e, s)
    | (.ok found, s) => collectEachOnto f found xs s

/-- The values of the stages made of the given values, up to the first failure. -/
def collectEach (f : α → Stage σ ε β) (xs : List α) (s : σ) : Except ε (List β) × σ :=
  collectEachOnto f [] xs s

/-- What has been collected already comes first. -/
theorem collectEachOnto_eq (f : α → Stage σ ε β) (found : List β) (xs : List α) (s : σ) :
    collectEachOnto f found xs s =
      ((collectEach f xs s).1.map (found.reverse ++ ·), (collectEach f xs s).2) := by
  unfold collectEach
  induction xs generalizing found s with
  | nil => simp [collectEachOnto, Except.map]
  | cons x xs ih =>
    unfold collectEachOnto
    rw [collectOnto_eq, collectOnto_eq (f x) []]
    rcases (f x).collect s with ⟨_ | ys, t⟩
    · rfl
    · simp only [Except.map, ih (ys.reverse ++ found) t, ih (ys.reverse ++ []) t]
      cases (collectEachOnto f [] xs t).1 <;> simp

/-- What is collected for a list is what is collected for its first item and then for the others. -/
theorem collectEach_cons (f : α → Stage σ ε β) (x : α) (xs : List α) (s : σ) :
    collectEach f (x :: xs) s =
      match (f x).collect s with
      | (.error e, s) => (.error e, s)
      | (.ok ys, s) => ((collectEach f xs s).1.map (ys ++ ·), (collectEach f xs s).2) := by
  rw [collectEach, collectEachOnto, collectOnto_eq]
  rcases (f x).collect s with ⟨_ | ys, t⟩
  · rfl
  · simp [Except.map, collectEachOnto_eq f ys.reverse]

/-- Replaces every value of the whole list by the values of a stage. -/
def mergeMap (f : α → Stage σ ε β) : Stage σ ε α → Stage σ ε β :=
  materialize (collectEach f)

/-- Cuts a list into runs of `size`; the fuel bounds their number. `found` are the runs so far, the last one
first. -/
def chunksOnto (size : Nat) (found : List (List α)) : Nat → List α → List (List α)
  | 0, _ => found.reverse
  | fuel + 1, xs =>
    if xs.isEmpty then found.reverse
    else chunksOnto size (xs.take size :: found) fuel (xs.drop size)

/-- Cuts a list into runs of `size`. -/
def chunks (size : Nat) (xs : List α) : List (List α) := chunksOnto size [] xs.length xs

/-- The stage itself if it does not fail, and the stage that the handler makes of its failure
otherwise. -/
def recover (handler : ε → Stage σ ε α) (stage : Stage σ ε α) : Stage σ ε α :=
  .read fun s =>
    match stage.collect s with
    | (.ok xs, s) => .write s (ofList xs)
    | (.error e, s) => let (r, s) := (handler e).collect s; .write s (ofExcept r)

/-- Goes on with what the first value of the whole list tells, if there is one. -/
def peek (f : Option α → Stage σ ε α → Stage σ ε β) : Stage σ ε α → Stage σ ε β :=
  materialize fun xs s => (f xs.head? (ofList xs)).collect s

/-- The values of all stages, one stage after the other. -/
def merge (stages : List (Stage σ ε α)) : Stage σ ε α :=
  .read fun s => let (r, s) := collectEach id stages s; .write s (ofExcept r)

end Vectorized

end Stage

end SparqlAlgebra

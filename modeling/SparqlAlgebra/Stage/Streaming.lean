import SparqlAlgebra.KeySet
import SparqlAlgebra.Stage.Basic

/-!
# Operators that work item by item

Each operator passes items on as they come. A failure is an item like any other, unless an operator
says otherwise. Merged stages take turns, one item each.
-/

namespace SparqlAlgebra

namespace Stage

namespace Streaming

variable {σ ε α β γ : Type}

/-- Applies a function that may fail to each value. -/
def tryMap (f : α → Except ε β) : Stage σ ε α → Stage σ ε β
  | .done => .done
  | .item (.ok x) rest => .item (f x) (tryMap f rest)
  | .item (.error e) rest => .item (.error e) (tryMap f rest)
  | .read next => .read fun s => tryMap f (next s)
  | .write s rest => .write s (tryMap f rest)

/-- Applies a function to each value. -/
def map (f : α → β) : Stage σ ε α → Stage σ ε β
  | .done => .done
  | .item (.ok x) rest => .item (.ok (f x)) (map f rest)
  | .item (.error e) rest => .item (.error e) (map f rest)
  | .read next => .read fun s => map f (next s)
  | .write s rest => .write s (map f rest)

/-- Applies a partial function to each value and drops the values without a result. -/
def filterMap (f : α → Option β) : Stage σ ε α → Stage σ ε β
  | .done => .done
  | .item (.ok x) rest =>
    match f x with
    | some y => .item (.ok y) (filterMap f rest)
    | none => filterMap f rest
  | .item (.error e) rest => .item (.error e) (filterMap f rest)
  | .read next => .read fun s => filterMap f (next s)
  | .write s rest => .write s (filterMap f rest)

/-- Like `filterMap` with a function that uses and changes the state, and that may fail. -/
def filterMapWithState (f : α → σ → Except ε (Option β) × σ) : Stage σ ε α → Stage σ ε β
  | .done => .done
  | .item (.ok x) rest =>
    .read fun s =>
      match f x s with
      | (.ok (some y), s) => .write s (.item (.ok y) (filterMapWithState f rest))
      | (.ok none, s) => .write s (filterMapWithState f rest)
      | (.error e, s) => .write s (.item (.error e) (filterMapWithState f rest))
  | .item (.error e) rest => .item (.error e) (filterMapWithState f rest)
  | .read next => .read fun s => filterMapWithState f (next s)
  | .write s rest => .write s (filterMapWithState f rest)

/-- Replaces each value by the items of a stage. -/
def mergeMap (f : α → Stage σ ε β) : Stage σ ε α → Stage σ ε β
  | .done => .done
  | .item (.ok x) rest => (f x).append (mergeMap f rest)
  | .item (.error e) rest => .item (.error e) (mergeMap f rest)
  | .read next => .read fun s => mergeMap f (next s)
  | .write s rest => .write s (mergeMap f rest)

/-- Folds all values into one. The first failure takes its place. -/
def reduce (f : β → α → β) : β → Stage σ ε α → Stage σ ε β
  | acc, .done => .item (.ok acc) .done
  | acc, .item (.ok x) rest => reduce f (f acc x) rest
  | _, .item (.error e) _ => fail e
  | acc, .read next => .read fun s => reduce f acc (next s)
  | acc, .write s rest => .write s (reduce f acc rest)

/-- The first `n` items, failures included. -/
def limit : Nat → Stage σ ε α → Stage σ ε α
  | 0, _ => .done
  | _ + 1, .done => .done
  | n + 1, .item x rest => .item x (limit n rest)
  | n + 1, .read next => .read fun s => limit (n + 1) (next s)
  | n + 1, .write s rest => .write s (limit (n + 1) rest)

/-- Drops the first `n` items, failures included. -/
def skip : Nat → Stage σ ε α → Stage σ ε α
  | 0, stage => stage
  | _ + 1, .done => .done
  | n + 1, .item _ rest => skip n rest
  | n + 1, .read next => .read fun s => skip (n + 1) (next s)
  | n + 1, .write s rest => .write s (skip (n + 1) rest)

/-- Keeps each value whose key has not been seen before. -/
def distinct [Keyed γ] (key : α → γ) : KeySet γ → Stage σ ε α → Stage σ ε α
  | _, .done => .done
  | seen, .item (.ok x) rest =>
    if seen.contains (key x) then distinct key seen rest
    else .item (.ok x) (distinct key (seen.insert (key x)) rest)
  | seen, .item (.error e) rest => .item (.error e) (distinct key seen rest)
  | seen, .read next => .read fun s => distinct key seen (next s)
  | seen, .write s rest => .write s (distinct key seen rest)

/-- Gathers the values into runs of `size`, the last one possibly shorter. A failure discards the values
of the run it interrupts. `held` are the `count` values of the run so far, the last one first. -/
def buffer (size : Nat) : Nat → List α → Stage σ ε α → Stage σ ε (List α)
  | _, held, .done => if held.isEmpty then .done else .item (.ok held.reverse) .done
  | count, held, .item (.ok x) rest =>
    if count + 1 ≥ size then .item (.ok (x :: held).reverse) (buffer size 0 [] rest)
    else buffer size (count + 1) (x :: held) rest
  | _, _, .item (.error e) rest => .item (.error e) (buffer size 0 [] rest)
  | count, held, .read next => .read fun s => buffer size count held (next s)
  | count, held, .write s rest => .write s (buffer size count held rest)

/-- All values as one list, or the first failure. -/
def gather (stage : Stage σ ε α) : Stage σ ε (List α) :=
  map List.reverse (reduce (fun acc x => x :: acc) [] stage)

/-- The stage itself, or one value if it has no item. -/
def defaultIfEmpty (value : α) : Stage σ ε α → Stage σ ε α
  | .done => .item (.ok value) .done
  | .item x rest => .item x rest
  | .read next => .read fun s => defaultIfEmpty value (next s)
  | .write s rest => .write s (defaultIfEmpty value rest)

/-- The values up to the first failure, then the items of the stage that the handler makes of it. What
precedes the item after the failure still has its effects. -/
def recover (handler : ε → Stage σ ε α) : Stage σ ε α → Stage σ ε α
  | .done => .done
  | .item (.ok x) rest => .item (.ok x) (recover handler rest)
  | .item (.error e) rest => (handler e).append rest.settle
  | .read next => .read fun s => recover handler (next s)
  | .write s rest => .write s (recover handler rest)

/-- Goes on with a stage that is made of the first value and the whole stage. A failure in the first
place is passed on alone. -/
def peek (f : Option α → Stage σ ε α → Stage σ ε β) : Stage σ ε α → Stage σ ε β
  | .done => f none .done
  | .item (.ok x) rest => f (some x) (.item (.ok x) rest)
  | .item (.error e) _ => fail e
  | .read next => .read fun s => peek f (next s)
  | .write s rest => .write s (peek f rest)

/-- Passes items on up to the end of the round, which is marked by the value `none`, and then closes the
round and goes on with the remaining ones. -/
def upToRound (next : Stage σ ε (Option α) → Stage σ ε (Option α)) :
    Stage σ ε (Option α) → Stage σ ε (Option α)
  | .done => .item (.ok none) (next .done)
  | .item (.ok none) rest => .item (.ok none) (next rest)
  | .item (.ok (some x)) rest => .item (.ok (some x)) (upToRound next rest)
  | .item (.error e) rest => .item (.error e) (upToRound next rest)
  | .read go => .read fun s => upToRound next (go s)
  | .write s rest => .write s (upToRound next rest)

/-- Puts one item of a stage in front of each round of the others. -/
def takeTurns : Stage σ ε α → Stage σ ε (Option α) → Stage σ ε (Option α)
  | .done => id
  | .item x rest => fun rounds => .item (x.map some) (upToRound (takeTurns rest) rounds)
  | .read next => fun rounds => .read fun s => takeTurns (next s) rounds
  | .write s rest => fun rounds => .write s (takeTurns rest rounds)

/-- The items of all stages, one of each stage in turn. A stage that has ended is passed over. -/
def merge (stages : List (Stage σ ε α)) : Stage σ ε α :=
  filterMap id (stages.foldr takeTurns .done)

end Streaming

end Stage

end SparqlAlgebra

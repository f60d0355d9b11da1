import SparqlAlgebra.Stage.Streaming
import SparqlAlgebra.Stage.Vectorized

/-!
# Engines

An engine fixes for each operator whether it works item by item or on whole lists. Both give the same values
as long as nothing fails; they differ in the order of merged stages and of effects.
-/

namespace SparqlAlgebra

/-- How operators are carried out. -/
inductive Engine where
  | streaming
  | vectorized
  deriving DecidableEq, Inhabited

namespace Engine

open Stage

variable {σ ε α β γ : Type}

/-- A stage of values and failures. A list-wise engine keeps only the values, or the first failure. -/
def ofItems (g : Engine) (xs : List (Except ε α)) : Stage σ ε α :=
  match g with
  | .streaming => Stage.ofItems xs
  | .vectorized => Vectorized.onList id (Stage.ofItems xs)

/-- Applies a function to every value. -/
def map (g : Engine) (f : α → β) (stage : Stage σ ε α) : Stage σ ε β :=
  match g with
  | .streaming => Streaming.map f stage
  | .vectorized => Vectorized.onList (List.map f) stage

/-- Applies a function that may fail to every value. -/
def tryMap (g : Engine) (f : α → Except ε β) (stage : Stage σ ε α) : Stage σ ε β :=
  match g with
  | .streaming => Streaming.tryMap f stage
  | .vectorized => Vectorized.tryMap f stage

/-- Applies a function to every value and leaves out those without a result. -/
def filterMap (g : Engine) (f : α → Option β) (stage : Stage σ ε α) : Stage σ ε β :=
  match g with
  | .streaming => Streaming.filterMap f stage
  | .vectorized => Vectorized.onList (List.filterMap f) stage

/-- Leaves out the values that do not pass. -/
def filter (g : Engine) (p : α → Bool) (stage : Stage σ ε α) : Stage σ ε α :=
  g.filterMap (fun x => if p x then some x else none) stage

/-- Applies a function that uses and changes the state, and that may fail or drop a value. -/
def filterMapWithState (g : Engine) (f : α → σ → Except ε (Option β) × σ) (stage : Stage σ ε α) :
    Stage σ ε β :=
  match g with
  | .streaming => Streaming.filterMapWithState f stage
  | .vectorized => Vectorized.materialize (Vectorized.filterMapStep f) stage

/-- Applies a function that uses and changes the state. -/
def mapWithState (g : Engine) (f : α → σ → β × σ) (stage : Stage σ ε α) : Stage σ ε β :=
  g.filterMapWithState (fun x s => let (y, s) := f x s; (.ok (some y), s)) stage

/-- Replaces every value by the values of a stage. -/
def mergeMap (g : Engine) (f : α → Stage σ ε β) (stage : Stage σ ε α) : Stage σ ε β :=
  match g with
  | .streaming => Streaming.mergeMap f stage
  | .vectorized => Vectorized.mergeMap f stage

/-- Folds the values into one. -/
def reduce (g : Engine) (f : β → α → β) (init : β) (stage : Stage σ ε α) : Stage σ ε β :=
  match g with
  | .streaming => Streaming.reduce f init stage
  | .vectorized => Vectorized.onList (fun xs => [xs.foldl f init]) stage

/-- The first values. -/
def limit (g : Engine) (n : Nat) (stage : Stage σ ε α) : Stage σ ε α :=
  match g with
  | .streaming => Streaming.limit n stage
  | .vectorized => Vectorized.onList (List.take n) stage

/-- The values behind the first ones. -/
def skip (g : Engine) (n : Nat) (stage : Stage σ ε α) : Stage σ ε α :=
  match g with
  | .streaming => Streaming.skip n stage
  | .vectorized => Vectorized.onList (List.drop n) stage

/-- The first value of every key. -/
def distinct [Keyed γ] (g : Engine) (key : α → γ) (stage : Stage σ ε α) : Stage σ ε α :=
  match g with
  | .streaming => Streaming.distinct key .empty stage
  | .vectorized => Vectorized.onList (KeySet.firstsOn key) stage

/-- Gathers the values into runs of `size`, at least one. -/
def buffer (g : Engine) (size : Nat) (stage : Stage σ ε α) : Stage σ ε (List α) :=
  match g with
  | .streaming => Streaming.buffer (max size 1) 0 [] stage
  | .vectorized => Vectorized.onList (Vectorized.chunks (max size 1)) stage

/-- All values as one list. -/
def gather (g : Engine) (stage : Stage σ ε α) : Stage σ ε (List α) :=
  match g with
  | .streaming => Streaming.gather stage
  | .vectorized => Vectorized.onList (fun xs => [xs]) stage

/-- A value that stands in for none. -/
def defaultIfEmpty (g : Engine) (value : α) (stage : Stage σ ε α) : Stage σ ε α :=
  match g with
  | .streaming => Streaming.defaultIfEmpty value stage
  | .vectorized => Vectorized.onList (fun xs => if xs.isEmpty then [value] else xs) stage

/-- Goes on with a handler where a stage fails. -/
def recover (g : Engine) (handler : ε → Stage σ ε α) (stage : Stage σ ε α) : Stage σ ε α :=
  match g with
  | .streaming => Streaming.recover handler stage
  | .vectorized => Vectorized.recover handler stage

/-- Goes on with what the first value tells, if there is one. -/
def peek (g : Engine) (f : Option α → Stage σ ε α → Stage σ ε β) (stage : Stage σ ε α) : Stage σ ε β :=
  match g with
  | .streaming => Streaming.peek f stage
  | .vectorized => Vectorized.peek f stage

/-- The values of several stages. -/
def merge (g : Engine) (stages : List (Stage σ ε α)) : Stage σ ε α :=
  match g with
  | .streaming => Streaming.merge stages
  | .vectorized => Vectorized.merge stages

/-- Sorts or otherwise rearranges the list of all values. -/
def rearrange (g : Engine) (f : List α → List β) (stage : Stage σ ε α) : Stage σ ε β :=
  g.mergeMap Stage.ofList (g.map f (g.gather stage))

end Engine

end SparqlAlgebra

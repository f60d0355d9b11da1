/-!
# Stages

A stage is a lazy description of a finite sequence of items, each a value or a failure. Between items it
may look at a state that all stages share and change it; what lies behind such a step is computed only when
a run gets there. So the order of the effects of several stages is the order in which their items are
asked for.
-/

namespace SparqlAlgebra

/-- A sequence of values and failures with effects on a state. -/
inductive Stage (σ ε α : Type) where
  /-- The end of the sequence. -/
  | done
  /-- A value or a failure, and what follows. -/
  | item (x : Except ε α) (rest : Stage σ ε α)
  /-- Looks at the state. -/
  | read (next : σ → Stage σ ε α)
  /-- Replaces the state. -/
  | write (state : σ) (rest : Stage σ ε α)

namespace Stage

variable {σ ε α β : Type}

instance : Inhabited (Stage σ ε α) := ⟨.done⟩

/-- The values of a list. Each is produced when a run gets there. -/
def ofList : List α → Stage σ ε α
  | [] => .done
  | x :: xs => .item (.ok x) (.read fun _ => ofList xs)

/-- The values and failures of a list. -/
def ofItems : List (Except ε α) → Stage σ ε α
  | [] => .done
  | x :: xs => .item x (.read fun _ => ofItems xs)

/-- A single failure. -/
def fail (e : ε) : Stage σ ε α := .item (.error e) .done

/-- The values of a list, or a failure. -/
def ofExcept : Except ε (List α) → Stage σ ε α
  | .ok xs => ofList xs
  | .error e => fail e

/-- A stage that is computed from the state, which it may change. -/
def act (f : σ → Stage σ ε α × σ) : Stage σ ε α :=
  .read fun s => let (stage, s) := f s; .write s stage

/-- Runs a stage to its end. Gives all its items in front of those found before, the last one first, and the
last state. -/
def runOnto : Stage σ ε α → List (Except ε α) → σ → List (Except ε α) × σ
  | .done, found, s => (found, s)
  | .item x rest, found, s => rest.runOnto (x :: found) s
  | .read next, found, s => (next s).runOnto found s
  | .write s rest, found, _ => rest.runOnto found s

/-- Runs a stage to its end. Gives all its items and the last state. -/
def run (stage : Stage σ ε α) (s : σ) : List (Except ε α) × σ :=
  let (found, s) := stage.runOnto [] s
  (found.reverse, s)

/-- Outcomes are collected in reverse, so what has been found already stays behind the new ones. -/
theorem runOnto_eq (stage : Stage σ ε α) (found : List (Except ε α)) (s : σ) :
    stage.runOnto found s = ((stage.run s).1.reverse ++ found, (stage.run s).2) := by
  induction stage generalizing found s with
  | done => simp [run, runOnto]
  | item x rest ih => simp [run, runOnto, ih (x :: found), ih [x]]
  | read next ih => simp [run, runOnto, ih s found]
  | write t rest ih => simp [run, runOnto, ih found]

/-- The empty stage has no outcome and leaves the state. -/
@[simp] theorem run_done (s : σ) : (done : Stage σ ε α).run s = ([], s) := rfl

/-- An outcome comes before those of the rest. -/
@[simp] theorem run_item (x : Except ε α) (rest : Stage σ ε α) (s : σ) :
    (item x rest).run s = (x :: (rest.run s).1, (rest.run s).2) := by
  simp [run, runOnto, runOnto_eq rest [x]]

/-- A stage that reads goes on as the state tells. -/
@[simp] theorem run_read (next : σ → Stage σ ε α) (s : σ) : (read next).run s = (next s).run s := rfl

/-- A stage that writes goes on in the new state. -/
@[simp] theorem run_write (t s : σ) (rest : Stage σ ε α) : (write t rest).run s = rest.run t := rfl

/-- Runs a stage up to its first failure. Gives its values in front of those found before, the last one first,
or the failure. -/
def collectOnto : Stage σ ε α → List α → σ → Except ε (List α) × σ
  | .done, found, s => (.ok found, s)
  | .item (.ok x) rest, found, s => rest.collectOnto (x :: found) s
  | .item (.error e) _, _, s => (.error e, s)
  | .read next, found, s => (next s).collectOnto found s
  | .write s rest, found, _ => rest.collectOnto found s

/-- Runs a stage up to its first failure. Gives its values, or the failure. -/
def collect (stage : Stage σ ε α) (s : σ) : Except ε (List α) × σ :=
  let (found, s) := stage.collectOnto [] s
  (found.map List.reverse, s)

/-- What has been found already comes before the values. -/
theorem collectOnto_eq (stage : Stage σ ε α) (found : List α) (s : σ) :
    stage.collectOnto found s = ((stage.collect s).1.map (·.reverse ++ found), (stage.collect s).2) := by
  induction stage generalizing found s with
  | done => simp [collect, collectOnto, Except.map]
  | item x rest ih =>
    cases x with
    | error e => simp [collect, collectOnto, Except.map]
    | ok x =>
      simp only [collect, collectOnto, ih (x :: found), ih [x]]
      cases (rest.collectOnto [] s).1 <;> simp [Except.map]
  | read next ih => simpa [collect, collectOnto] using ih s found s
  | write t rest ih => simpa [collect, collectOnto] using ih found t

/-- Nothing is collected from the empty stage. -/
@[simp] theorem collect_done (s : σ) : (done : Stage σ ε α).collect s = (.ok [], s) := rfl

/-- A value is collected before those of the rest. -/
@[simp] theorem collect_ok (x : α) (rest : Stage σ ε α) (s : σ) :
    (item (.ok x) rest).collect s = ((rest.collect s).1.map (x :: ·), (rest.collect s).2) := by
  simp only [collect, collectOnto, collectOnto_eq rest [x]]
  cases (rest.collectOnto [] s).1 <;> simp [Except.map]

/-- A failure ends the collection. -/
@[simp] theorem collect_error (e : ε) (rest : Stage σ ε α) (s : σ) :
    (item (.error e) rest).collect s = (.error e, s) := rfl

/-- A stage that reads is collected as the state tells. -/
@[simp] theorem collect_read (next : σ → Stage σ ε α) (s : σ) :
    (read next).collect s = (next s).collect s := rfl

/-- A stage that writes is collected in the new state. -/
@[simp] theorem collect_write (t s : σ) (rest : Stage σ ε α) : (write t rest).collect s = rest.collect t := rfl

/-- One stage after another. -/
def append : Stage σ ε α → Stage σ ε α → Stage σ ε α
  | .done, t => t
  | .item x rest, t => .item x (rest.append t)
  | .read next, t => .read fun s => (next s).append t
  | .write s rest, t => .write s (rest.append t)

/-- Has the effects before the next item, but neither that item nor anything after it. -/
def settle : Stage σ ε α → Stage σ ε β
  | .done => .done
  | .item .. => .done
  | .read next => .read fun s => (next s).settle
  | .write s rest => .write s rest.settle

/-- Splits the items of a run at the first failure: the values before it, and the failure. `found` are the
values so far, the last one first. -/
def splitOnto (found : List α) : List (Except ε α) → List α × Option ε
  | [] => (found.reverse, none)
  | .ok x :: rest => splitOnto (x :: found) rest
  | .error e :: _ => (found.reverse, some e)

/-- Splits the items of a run at the first failure: the values before it, and the failure. -/
def splitAtFailure (xs : List (Except ε α)) : List α × Option ε := splitOnto [] xs

/-- What has been found already comes before the values up to the failure. -/
theorem splitOnto_eq (found : List α) (xs : List (Except ε α)) :
    splitOnto found xs = (found.reverse ++ (splitAtFailure xs).1, (splitAtFailure xs).2) := by
  induction xs generalizing found with
  | nil => simp [splitOnto, splitAtFailure]
  | cons x xs ih =>
    cases x with
    | error e => simp [splitOnto, splitAtFailure]
    | ok x => simp [splitOnto, splitAtFailure, ih (x :: found), ih [x]]

end Stage

end SparqlAlgebra

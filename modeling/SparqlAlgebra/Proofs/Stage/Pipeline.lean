import SparqlAlgebra.Proofs.Stage.Delivers

/-!
# Pipelines on either engine

A pipeline is a tree of operators over sources of values and failures. The callback of `peek` is a pipeline that may use
the input over again, so a pipeline stands in a context of stages that it may hold. Each pipeline has a list of values
as its meaning, or none if something in it fails, and both engines are compared with that.
-/

namespace SparqlAlgebra

universe u

/-- A place in a list of types. -/
inductive Place : List Type → Type → Type 1
  | first {Γ : List Type} {α : Type} : Place (α :: Γ) α
  | next {Γ : List Type} {α β : Type} : Place Γ α → Place (β :: Γ) α

/-- Something for each place. -/
def Assigned (F : Type → Type u) (Γ : List Type) : Type _ := (α : Type) → Place Γ α → F α

namespace Assigned

variable {F : Type → Type u} {Γ : List Type} {α : Type}

/-- Nothing is held in the empty context. -/
def empty : Assigned F [] := nofun

/-- Holds one more thing, in the first place. -/
def push (held : Assigned F Γ) (x : F α) : Assigned F (α :: Γ)
  | _, .first => x
  | β, .next i => held β i

end Assigned

/-- A tree of operators with pure callbacks. `Γ` are the types of the stages that it may use besides its own sources. -/
inductive Pipeline (ε : Type) : List Type → Type → Type 1
  /-- The values of a list or of an iterator. -/
  | ofList {Γ : List Type} {α : Type} (xs : List α) : Pipeline ε Γ α
  /-- The outcome of a single computation. -/
  | ofFuture {Γ : List Type} {α : Type} (x : Except ε α) : Pipeline ε Γ α
  | error {Γ : List Type} {α : Type} (e : ε) : Pipeline ε Γ α
  /-- The input of a `peek` around. -/
  | held {Γ : List Type} {α : Type} (i : Place Γ α) : Pipeline ε Γ α
  | map {Γ : List Type} {α β : Type} (f : α → β) (p : Pipeline ε Γ α) : Pipeline ε Γ β
  | tryMap {Γ : List Type} {α β : Type} (f : α → Except ε β) (p : Pipeline ε Γ α) : Pipeline ε Γ β
  | filter {Γ : List Type} {α : Type} (test : α → Bool) (p : Pipeline ε Γ α) : Pipeline ε Γ α
  | filterMap {Γ : List Type} {α β : Type} (f : α → Option β) (p : Pipeline ε Γ α) : Pipeline ε Γ β
  | mergeMap {Γ : List Type} {α β : Type} (f : α → Pipeline ε Γ β) (p : Pipeline ε Γ α) : Pipeline ε Γ β
  | reduce {Γ : List Type} {α β : Type} (f : β → α → β) (init : β) (p : Pipeline ε Γ α) : Pipeline ε Γ β
  | distinct {Γ : List Type} {α γ : Type} [Keyed γ] (key : α → γ) (p : Pipeline ε Γ α) : Pipeline ε Γ α
  | buffer {Γ : List Type} {α : Type} (size : Nat) (p : Pipeline ε Γ α) : Pipeline ε Γ (List α)
  | gather {Γ : List Type} {α : Type} (p : Pipeline ε Γ α) : Pipeline ε Γ (List α)
  | defaultIfEmpty {Γ : List Type} {α : Type} (x : α) (p : Pipeline ε Γ α) : Pipeline ε Γ α
  | limit {Γ : List Type} {α : Type} (n : Nat) (p : Pipeline ε Γ α) : Pipeline ε Γ α
  | skip {Γ : List Type} {α : Type} (n : Nat) (p : Pipeline ε Γ α) : Pipeline ε Γ α
  | peek {Γ : List Type} {α β : Type} (f : Option α → Pipeline ε (α :: Γ) β) (p : Pipeline ε Γ α) : Pipeline ε Γ β

namespace Pipeline

variable {σ ε : Type} {Γ : List Type} {α : Type}

/-- The stage that an engine makes of a pipeline. -/
def stage (g : Engine) {Γ : List Type} {α : Type} (held : Assigned (Stage σ ε) Γ) : Pipeline ε Γ α → Stage σ ε α
  | .ofList xs => .ofList xs
  | .ofFuture x => .item x .done
  | .error e => .fail e
  | .held i => held _ i
  | .map f p => g.map f (p.stage g held)
  | .tryMap f p => g.tryMap f (p.stage g held)
  | .filter test p => g.filter test (p.stage g held)
  | .filterMap f p => g.filterMap f (p.stage g held)
  | .mergeMap f p => g.mergeMap (fun x => (f x).stage g held) (p.stage g held)
  | .reduce f init p => g.reduce f init (p.stage g held)
  | @distinct _ _ _ _ _ key p => g.distinct key (p.stage g held)
  | .buffer size p => g.buffer size (p.stage g held)
  | .gather p => g.gather (p.stage g held)
  | .defaultIfEmpty x p => g.defaultIfEmpty x (p.stage g held)
  | .limit n p => g.limit n (p.stage g held)
  | .skip n p => g.skip n (p.stage g held)
  | .peek f p => g.peek (fun first whole => (f first).stage g (held.push whole)) (p.stage g held)

/-- The values of a pipeline, unless something fails that they are computed from. -/
def values? {Γ : List Type} {α : Type} (held : Assigned List Γ) : Pipeline ε Γ α → Option (List α)
  | .ofList xs => some xs
  | .ofFuture x => (x.map ([·])).toOption
  | .error _ => none
  | .held i => some (held _ i)
  | .map f p => (p.values? held).map (List.map f)
  | .tryMap f p => (p.values? held).bind fun xs => (xs.mapM f).toOption
  | .filter test p => (p.values? held).map (List.filter test)
  | .filterMap f p => (p.values? held).map (List.filterMap f)
  | .mergeMap f p => (p.values? held).bind (Stage.joined fun x => (f x).values? held)
  | .reduce f init p => (p.values? held).map fun xs => [xs.foldl f init]
  | @distinct _ _ _ _ _ key p => (p.values? held).map (KeySet.firstsOn key)
  | .buffer size p => (p.values? held).map (Stage.Vectorized.chunks (max size 1))
  | .gather p => (p.values? held).map fun xs => [xs]
  | .defaultIfEmpty x p => (p.values? held).map fun xs => if xs.isEmpty then [x] else xs
  | .limit n p => (p.values? held).map (List.take n)
  | .skip n p => (p.values? held).map (List.drop n)
  | .peek f p => (p.values? held).bind fun xs => (f xs.head?).values? (held.push xs)

/-- No operator of the pipeline stops short of its input, drops items without a look at them or hands its input on. -/
def IsStrict {Γ : List Type} {α : Type} : Pipeline ε Γ α → Prop
  | .ofList _ | .ofFuture _ | .error _ | .held _ => True
  | .map _ p | .tryMap _ p | .filter _ p | .filterMap _ p | .reduce _ _ p => p.IsStrict
  | @distinct _ _ _ _ _ _ p | .buffer _ p | .gather p | .defaultIfEmpty _ p => p.IsStrict
  | .mergeMap f p => p.IsStrict ∧ ∀ x, (f x).IsStrict
  | .limit _ _ | .skip _ _ | .peek _ _ => False

/-- No source and no callback fails. -/
def NeverFails {Γ : List Type} {α : Type} : Pipeline ε Γ α → Prop
  | .ofList _ | .held _ => True
  | .ofFuture x => ∃ y, x = .ok y
  | .error _ => False
  | .tryMap f p => p.NeverFails ∧ ∀ x, ∃ y, f x = .ok y
  | .mergeMap f p => p.NeverFails ∧ ∀ x, (f x).NeverFails
  | .peek f p => p.NeverFails ∧ ∀ first, (f first).NeverFails
  | .map _ p | .filter _ p | .filterMap _ p | .reduce _ _ p | @distinct _ _ _ _ _ _ p => p.NeverFails
  | .buffer _ p | .gather p | .defaultIfEmpty _ p | .limit _ p | .skip _ p => p.NeverFails

variable {P : σ → Prop}

/-- On whole lists, or if every operator looks at all of its input, a pipeline delivers its values or fails without
them. Otherwise it still delivers its values. -/
theorem delivers_stage (g : Engine) {held : Assigned (Stage σ ε) Γ} {lists : Assigned List Γ}
    (hheld : ∀ β i, (held β i).Yields P (lists β i)) (p : Pipeline ε Γ α)
    (hp : g = .vectorized ∨ p.IsStrict ∨ (p.values? lists).isSome) :
    (p.stage g held).Delivers P (p.values? lists) := by
  induction p with
  | ofList xs => exact Stage.Yields.ofList xs
  | ofFuture x =>
    cases x with
    | error e => exact Stage.Fails.failure e .done
    | ok x => exact Stage.Yields.item .done
  | error e => exact Stage.Fails.failure e .done
  | held i => exact hheld _ i
  | map f p ih => exact g.delivers_map f (ih hheld (by simpa [values?, IsStrict] using hp))
  | tryMap f p ih => exact g.delivers_tryMap f (ih hheld (hp.imp_right (Or.imp_right Option.isSome_of_isSome_bind)))
  | filter test p ih => exact g.delivers_filter test (ih hheld (by simpa [values?, IsStrict] using hp))
  | filterMap f p ih => exact g.delivers_filterMap f (ih hheld (by simpa [values?, IsStrict] using hp))
  | mergeMap f p ihf ih =>
    have hinput := ih hheld (hp.imp_right (Or.imp And.left Option.isSome_of_isSome_bind))
    refine g.delivers_mergeMap (fun x hx => ihf x hheld ?_) hinput
    refine hp.imp_right (Or.imp (fun h => h.2 x) fun h => ?_)
    obtain ⟨ys, hys⟩ := Option.isSome_iff_exists.1 h
    obtain ⟨xs, hxs, hjoined⟩ := Option.bind_eq_some_iff.1 hys
    exact Stage.isSome_joined.1 (Option.isSome_iff_exists.2 ⟨ys, hjoined⟩) x (hx xs hxs)
  | reduce f init p ih => exact g.delivers_reduce f init (ih hheld (by simpa [values?, IsStrict] using hp))
  | distinct key p ih => exact g.delivers_distinct key (ih hheld (by simpa [values?, IsStrict] using hp))
  | buffer size p ih => exact g.delivers_buffer size (ih hheld (by simpa [values?, IsStrict] using hp))
  | gather p ih => exact g.delivers_gather (ih hheld (by simpa [values?, IsStrict] using hp))
  | defaultIfEmpty x p ih => exact g.delivers_defaultIfEmpty x (ih hheld (by simpa [values?, IsStrict] using hp))
  | limit n p ih =>
    have hg : g = .vectorized ∨ (p.values? lists).isSome := by simpa [values?, IsStrict] using hp
    exact g.delivers_limit n hg (ih hheld (hg.imp_right .inr))
  | skip n p ih =>
    have hg : g = .vectorized ∨ (p.values? lists).isSome := by simpa [values?, IsStrict] using hp
    exact g.delivers_skip n hg (ih hheld (hg.imp_right .inr))
  | peek f p ihf ih =>
    have hg : g = .vectorized ∨ ((Pipeline.peek f p).values? lists).isSome := hp.imp_right (·.resolve_left id)
    have hinput := ih hheld (hg.imp_right fun h => .inr (Option.isSome_of_isSome_bind h))
    refine g.delivers_peek hg (fun xs hxs whole hwhole => ihf xs.head? ?_ (hg.imp_right fun h => .inr ?_)) hinput
    · rintro _ (_ | i)
      · exact hwhole
      · exact hheld _ i
    · rwa [values?, hxs] at h

/-- A pipeline in which nothing can fail has values. -/
theorem NeverFails.isSome_values {p : Pipeline ε Γ α} (h : p.NeverFails) (lists : Assigned List Γ) :
    (p.values? lists).isSome := by
  induction p with
  | ofList xs => rfl
  | held i => rfl
  | error e => exact h.elim
  | ofFuture x =>
    obtain ⟨y, rfl⟩ := h
    rfl
  | tryMap f p ih =>
    obtain ⟨xs, hxs⟩ := Option.isSome_iff_exists.1 (ih h.1 lists)
    rw [values?, hxs]
    exact Stage.isSome_mapM h.2 xs
  | mergeMap f p ihf ih =>
    obtain ⟨xs, hxs⟩ := Option.isSome_iff_exists.1 (ih h.1 lists)
    rw [values?, hxs]
    exact Stage.isSome_joined.2 fun x _ => ihf x (h.2 x) lists
  | peek f p ihf ih =>
    obtain ⟨xs, hxs⟩ := Option.isSome_iff_exists.1 (ih h.1 lists)
    rw [values?, hxs]
    exact ihf xs.head? (h.2 xs.head?) (lists.push xs)
  | map f p ih | filter test p ih | filterMap f p ih | reduce f init p ih | distinct key p ih | buffer size p ih
  | gather p ih | defaultIfEmpty x p ih | limit n p ih | skip n p ih =>
    rw [values?, Option.isSome_map]
    exact ih h lists

section Closed

variable {p : Pipeline ε [] α} {g : Engine}

/-- With nothing held, a pipeline delivers its values or fails. -/
theorem delivers_closed (hp : g = .vectorized ∨ p.IsStrict ∨ (p.values? .empty).isSome) :
    (p.stage g .empty).Delivers P (p.values? .empty) := by
  have hheld : ∀ β i, Stage.Yields P ((Assigned.empty : Assigned (Stage σ ε) []) β i) (Assigned.empty β i) := nofun
  exact delivers_stage g hheld p hp

/-- Collecting gives the values, and leaves the state alone. -/
theorem collect_eq_ok {xs : List α} (hxs : p.values? .empty = some xs) (s : σ) :
    (p.stage g .empty).collect s = (.ok xs, s) := by
  have hsome : (p.values? .empty).isSome := Option.isSome_iff_exists.2 ⟨xs, hxs⟩
  have hdelivers : (p.stage g .empty).Delivers (· = s) (p.values? .empty) := delivers_closed (.inr (.inr hsome))
  rw [hxs] at hdelivers
  obtain ⟨_, rfl, hcollect⟩ := Stage.Yields.collect hdelivers rfl
  exact hcollect

/-- Collecting a pipeline gives its values, or a failure if it has none. -/
theorem toOption_collect (hp : g = .vectorized ∨ p.IsStrict) (s : σ) :
    ((p.stage g .empty).collect s).1.toOption = p.values? .empty := by
  have hdelivers : (p.stage g .empty).Delivers (fun _ : σ => True) (p.values? .empty) :=
    delivers_closed (hp.imp_right .inl)
  exact (hdelivers.collect trivial).2

end Closed

/-- If no operator can stop short of its input, both engines succeed or both fail, and with the same values. If nothing
in the pipeline can fail, both succeed with the same values, also where operators stop short; and so they do whenever
the pipeline succeeds on whole lists. -/
theorem engines_agree (p : Pipeline ε [] α) (s : σ) :
    (p.IsStrict →
      ((p.stage .streaming .empty).collect s).1.toOption = ((p.stage .vectorized .empty).collect s).1.toOption) ∧
    (p.NeverFails → ∃ xs, ∀ g, (p.stage g .empty).collect s = (.ok xs, s)) ∧
    (∀ xs, ((p.stage .vectorized .empty).collect s).1 = .ok xs →
      (p.stage .streaming .empty).collect s = (.ok xs, s)) := by
  refine ⟨fun h => ?strict, fun h => ?neverFails, fun xs hxs => ?onLists⟩
  case strict => rw [toOption_collect (.inr h), toOption_collect (.inl rfl)]
  case neverFails =>
    obtain ⟨xs, hxs⟩ := Option.isSome_iff_exists.1 (h.isSome_values .empty)
    exact ⟨xs, fun g => collect_eq_ok hxs s⟩
  case onLists =>
    refine collect_eq_ok ?_ s
    rw [← toOption_collect (.inl rfl) s, hxs]
    rfl

/-- A source fails in the middle of a merge, and a peek decides how many values are left of those behind the first. -/
theorem engines_agree_failing_or_sliced :
    let failing : Pipeline String [] Nat :=
      .mergeMap (fun n => if n = 2 then .error "two" else .ofList [n, n]) (.ofList [1, 2, 3])
    let sliced : Pipeline String [] Nat :=
      .peek (fun first => .limit (first.getD 0) (.skip 1 (.held .first))) (.ofList [2, 3, 4, 5])
    let outcome (g : Engine) (p : Pipeline String [] Nat) := (p.stage g .empty).collect ()
    (failing.IsStrict ∧ (outcome .streaming failing).1.toOption = (outcome .vectorized failing).1.toOption ∧
      (outcome .vectorized failing).1 = .error "two") ∧
    (sliced.NeverFails ∧ ∀ g, outcome g sliced = (.ok [3, 4], ())) ∧
    ((outcome .vectorized sliced).1 = .ok [3, 4] ∧ outcome .streaming sliced = (.ok [3, 4], ())) := by
  intro failing sliced outcome
  have hstrict : failing.IsStrict := by
    refine ⟨trivial, fun n => ?_⟩
    dsimp only
    split <;> trivial
  have hnever : sliced.NeverFails := ⟨trivial, fun _ => trivial⟩
  have hlists : (outcome .vectorized sliced).1 = .ok [3, 4] := by decide +kernel
  obtain ⟨-, hsame, honLists⟩ := engines_agree sliced ()
  obtain ⟨xs, hxs⟩ := hsame hnever
  have hvalues : xs = [3, 4] := Except.ok.inj ((congrArg Prod.fst (hxs .vectorized)).symm.trans hlists)
  subst hvalues
  exact ⟨⟨hstrict, (engines_agree failing ()).1 hstrict, by decide +kernel⟩, ⟨hnever, hxs⟩, hlists, honLists _ hlists⟩

end Pipeline

end SparqlAlgebra

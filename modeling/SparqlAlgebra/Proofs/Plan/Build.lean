import SparqlAlgebra.Plan.Group

/-!
# Running constructions

The constructions that build plans, step by step: a bind runs its second part in the store that the first part
leaves, unless that fails.
-/

namespace SparqlAlgebra

/-- What comes to a value has come to values on the way. -/
theorem exists_of_bind_eq_ok {ε α β : Type} {x : Except ε α} {f : α → Except ε β} {b : β} (h : x >>= f = .ok b) :
    ∃ a, x = .ok a ∧ f a = .ok b := by
  cases x with
  | error e => cases h
  | ok a => exact ⟨a, rfl, h⟩

namespace Build

variable {α β : Type} {x : Build α} {f : α → Build β} {st t : Store} {a : α}

/-- A bind looks at the result of its first part. -/
theorem run_bind (x : Build α) (f : α → Build β) (st : Store) :
    (x >>= f).run st = match x.run st with
      | (.ok a, t) => (f a).run t
      | (.error e, t) => (.error e, t) := by
  have hb : ∀ (m : StateM Store (Except QueryError α)) (k : Except QueryError α → StateM Store (Except QueryError β)),
      (m >>= k) st = k (m st).1 (m st).2 := fun m k => rfl
  rw [ExceptT.run_bind, hb]
  rcases x.run st with ⟨_ | a, t⟩
  · rfl
  · rfl

/-- After a step that succeeds the construction goes on from its store. -/
theorem run_bind_ok (h : x.run st = (.ok a, t)) : (x >>= f).run st = (f a).run t := by
  rw [run_bind, h]

/-- Two steps succeed if the second one does from where the first one ends. -/
theorem run_bind_eq_ok_iff {b : β} {u : Store} :
    (x >>= f).run st = (.ok b, u) ↔ ∃ a t, x.run st = (.ok a, t) ∧ (f a).run t = (.ok b, u) := by
  rw [run_bind]
  constructor
  · intro h
    rcases hx : x.run st with ⟨e | a, t⟩
    · rw [hx] at h
      cases h
    · rw [hx] at h
      exact ⟨a, t, rfl, h⟩
  · rintro ⟨a, t, hx, h⟩
    rw [hx]
    exact h

/-- A bind fails where its first part does, or where its second part fails after it. -/
theorem run_bind_error_iff {e : QueryError} :
    ((x >>= f).run st).1 = .error e ↔
      (x.run st).1 = .error e ∨ ∃ a t, x.run st = (.ok a, t) ∧ ((f a).run t).1 = .error e := by
  rw [run_bind]
  rcases x.run st with ⟨e' | a, t⟩
  · refine ⟨fun h => .inl (congrArg Except.error (Except.error.inj h)), ?_⟩
    rintro (h | ⟨a, u, hx, -⟩)
    · exact congrArg Except.error (Except.error.inj h)
    · cases hx
  · refine ⟨fun h => .inr ⟨a, t, rfl, h⟩, ?_⟩
    rintro (h | ⟨b, u, hx, h⟩)
    · cases h
    · cases hx
      exact h

/-- Reading the store changes nothing. -/
@[simp] theorem run_get (st : Store) : (get : Build Store).run st = (.ok st, st) := rfl

end Build

/-- The names of a dataset are those of its named graphs. -/
theorem Scope.mem_names_iff {d : Dataset} {iri : Iri} : iri ∈ d.names ↔ d.hasNamed iri = true := by
  rw [Dataset.names, List.mem_mergeSort, Dataset.hasNamed, Dataset.named?, List.lookup_isSome_iff, List.mem_map]
  exact exists_congr fun e => and_congr_right fun _ => by rw [beq_iff_eq, eq_comm]

/-- The graphs that are gone through are those that can be seen. -/
theorem Scope.mem_namedGraphs_iff {c : Scope} {d : Dataset} {iri : Iri} :
    iri ∈ c.namedGraphs d ↔ c.canSee d iri = true := by
  unfold namedGraphs canSee
  cases c.visible with
  | none => simp [mem_names_iff]
  | some iris => simp

/-- No graph is gone through twice if none is chosen twice and no name is in use twice. -/
theorem Scope.nodup_namedGraphs {c : Scope} {d : Dataset} (hvisible : ∀ iris, c.visible = some iris → iris.Nodup)
    (hnames : (d.named.map (·.1)).Nodup) : (c.namedGraphs d).Nodup := by
  unfold namedGraphs
  split
  · rename_i iris hiris
    exact (hvisible iris hiris).filter _
  · exact (List.mergeSort_perm ..).nodup_iff.2 hnames

/-- Against an active graph that does not depend on the solutions the stage is made at once. -/
theorem Scope.run_onActiveGraph {c : Scope} {st : Store} {r : GraphRef} {source : Flow Solution}
    {evaluate : Flow Solution → GraphRef → Flow Solution} (hr : c.activeGraph? st.dataset = .ok (some r)) :
    (c.onActiveGraph source evaluate).run st = (.ok (evaluate source r), st) := by
  rw [onActiveGraph, Build.run_bind_ok (Build.run_get st), hr]
  rfl

namespace Plan

variable {b : Build (Flow Solution)} {f : Flow Solution} {st t : Store}

/-- What can be built is run from the store that building it leaves. -/
theorem now_ok (h : b.run st = (.ok f, t)) : now b st = (f, t) := by
  rw [now, h]

/-- Plans over a single solution are built one after another. -/
theorem forEach_cons {c : Scope} {s : Solution} {p : Plan} {ps : List Plan} :
    forEach c s (p :: ps) st =
      ((now (p c (.ofList [s])) st).1 :: (forEach c s ps (now (p c (.ofList [s])) st).2).1,
        (forEach c s ps (now (p c (.ofList [s])) st).2).2) := rfl

/-- Keys that are variables need no extension. -/
theorem bindKeys_vars (c : Scope) (i : Nat) (vs : List Variable) (source : Flow Solution) :
    bindKeys c i (vs.map .var) source = return (source, vs, []) := by
  induction vs generalizing i with
  | nil => rfl
  | cons v vs ih =>
    rw [List.map_cons, bindKeys, ih]
    rfl

end Plan

end SparqlAlgebra

import SparqlAlgebra.Proofs.Update.Transfer

/-!
# Updates that fail

An operation checks everything that can fail before it changes the first triple. Copying and moving clear their target
first, but then the source is known to be there, and the look-up of its triples does not fail. So a request that fails
has carried out all operations before the one that failed, and nothing else.

A transfer fails in one way only: its source is a named graph that is not there. Adding always looks for the source;
copying and moving take a graph onto itself without looking whether it is there.
-/

namespace SparqlAlgebra

variable {c : Scope} {st st₁ st' : Store} {e : QueryError} {op : UpdateOperation} {ops : List UpdateOperation} {k : Nat}
  {source target : GraphName} {iri : Iri} {kind : Transfer} {silent : Bool}

namespace UpdateOperation

/-- The operation asks no service. -/
def isLocal : UpdateOperation → Bool
  | .deleteInsert _ _ _ pattern => pattern.isLocal
  | _ => true

/-- A change of the dataset that fails is none. -/
theorem eq_of_change_error {f : Dataset → Except QueryError Dataset} (h : (change f).run st = (.error e, st')) :
    st' = st := by
  rw [change, Build.run_bind_ok (Build.run_get st)] at h
  cases hf : f st.dataset with
  | ok d =>
    rw [hf] at h
    cases h
  | error e' =>
    rw [hf] at h
    exact (congrArg Prod.snd h).symm

/-- All solutions are there before the first template is instantiated. -/
theorem dataset_of_replace_error {delete insert : List QuadPattern} {choice : Option QueryDataset} {p : Pattern}
    (hlocal : p.isLocal = true) (h : (replace c delete insert choice p).run st = (.error e, st')) :
    st'.dataset = st.dataset := by
  have hkept := Pattern.dataset_collected hlocal (c.withDataset choice) st
  rw [replace_eq, Build.run_bind] at h
  rcases hrun : (p.plan.fromEmpty (c.withDataset choice) >>= Plan.collect).run st with ⟨e' | rows, t⟩
  · rw [hrun] at h hkept
    obtain ⟨-, rfl⟩ := Prod.mk.inj h
    exact hkept
  · rw [hrun] at h
    cases h

/-- Without a source a transfer is idle only if it is no addition and goes to the source itself. -/
theorem isIdle_of_missing {d : Dataset} (target : GraphName) (kind : Transfer) (hmissing : d.hasGraph source = false) :
    isIdle d source target kind = true ↔ ¬ (kind = .add ∨ source ≠ target) := by
  cases kind <;> simp [isIdle, hmissing]

/-- A transfer that looks for its source and does not find it fails, unless it is silent. It leaves the store as it
is. -/
theorem run_executeTransfer_missing (hmissing : st.dataset.hasNamed iri = false) :
    (executeTransfer c kind (.named iri) target silent).run st =
      (if silent = false ∧ (kind = .add ∨ .named iri ≠ target) then .error (.graphMissing iri) else .ok (), st) := by
  have hidle := isIdle_of_missing target kind (Dataset.hasGraph_eq_false_iff.2 ⟨iri, rfl, hmissing⟩)
  rw [executeTransfer, Build.run_bind_ok (Build.run_get st)]
  dsimp only
  rw [Dataset.demand_of_missing hmissing]
  by_cases hlooks : kind = .add ∨ .named iri ≠ target
  · rw [if_neg (mt hidle.1 (not_not.2 hlooks))]
    cases silent with
    | true => rfl
    | false =>
      rw [if_pos ⟨rfl, hlooks⟩]
      rfl
  · rw [if_pos (hidle.2 hlooks), if_neg (mt And.right hlooks)]
    rfl

section Transfer

variable (hactive : c.active = .default) (hvisible : c.visible = none)
include hactive hvisible

/-- Nothing fails any more once a transfer has begun. -/
theorem transferBetween_ok (target : GraphName) (kind : Transfer) (hthere : st.dataset.hasGraph source = true) :
    ∃ st', (transferBetween c source target kind).run st = (.ok (), st') := by
  have hstill : (st.withDataset (st.dataset.modify target (·.clear))).dataset.hasGraph source = true := by
    rwa [Store.withDataset, Dataset.hasGraph_modify]
  obtain ⟨s, -, hadded⟩ := exists_insertAllOf hactive hvisible target hthere
  obtain ⟨t, -, hcopied⟩ := exists_insertAllOf hactive hvisible target hstill
  cases kind with
  | add => exact ⟨_, hadded⟩
  | copy =>
    rw [transferBetween, Build.run_bind_ok (run_clearIfThere target st)]
    exact ⟨_, hcopied⟩
  | move =>
    rw [transferBetween, Build.run_bind_ok (run_clearIfThere target st), Build.run_bind_ok hcopied, run_clearIfThere]
    exact ⟨_, rfl⟩

/-- A transfer that finds its source does not fail. -/
theorem exists_executeTransfer (target : GraphName) (kind : Transfer) (silent : Bool)
    (hthere : st.dataset.hasGraph source = true) :
    ∃ st', (executeTransfer c kind source target silent).run st = (.ok (), st') := by
  rw [executeTransfer, Build.run_bind_ok (Build.run_get st)]
  dsimp only
  rw [Dataset.demand_eq_ok_iff.2 hthere]
  split
  · exact ⟨st, rfl⟩
  · exact transferBetween_ok hactive hvisible target kind hthere

/-- A transfer fails only where its source is missing, before anything is cleared. -/
theorem eq_of_executeTransfer_error (h : (executeTransfer c kind source target silent).run st = (.error e, st')) :
    st' = st := by
  cases hthere : st.dataset.hasGraph source with
  | true =>
    obtain ⟨t, hok⟩ := exists_executeTransfer hactive hvisible target kind silent hthere
    cases hok.symm.trans h
  | false =>
    obtain ⟨iri, rfl, hmissing⟩ := Dataset.hasGraph_eq_false_iff.1 hthere
    rw [run_executeTransfer_missing hmissing] at h
    exact (congrArg Prod.snd h).symm

/-- An operation that fails leaves the dataset as it was. -/
theorem dataset_of_execute_error (hlocal : op.isLocal = true) (h : (op.execute c).run st = (.error e, st')) :
    st'.dataset = st.dataset := by
  have hchange : ∀ f, op.execute c = change f → st'.dataset = st.dataset := by
    intro f hf
    rw [hf] at h
    rw [eq_of_change_error h]
  cases op with
  | insertData quads => cases h
  | deleteData quads => exact hchange _ (by rw [execute])
  | deleteInsert delete insert choice p => exact dataset_of_replace_error hlocal h
  | load source silent =>
    cases silent with
    | true => cases h
    | false => exact congrArg (·.2.dataset) h.symm
  | clear target silent => exact hchange _ (by rw [execute])
  | drop target silent => exact hchange _ (by rw [execute])
  | create iri silent => exact hchange _ (by rw [execute])
  | transfer kind source target silent => rw [eq_of_executeTransfer_error hactive hvisible h]

end Transfer

/-- All operations before the one at this place succeed, and in the store that they leave that one fails. -/
structure FailsAt (c : Scope) (ops : List UpdateOperation) (st : Store) (k : Nat) (st₁ : Store) (e : QueryError) :
    Prop where
  /-- The operations before it succeed. -/
  before : (executeAll c (ops.take k)).run st = (.ok (), st₁)
  /-- The operation at this place fails. -/
  fails : ∃ op, ops[k]? = some op ∧ ((op.execute c).run st₁).1 = .error e

/-- Operations are executed one part after the other, and an error in the first keeps the second from running. -/
theorem executeAll_append (before after : List UpdateOperation) :
    executeAll c (before ++ after) = executeAll c before >>= fun _ => executeAll c after := by
  induction before with
  | nil => simp [executeAll]
  | cons op ops ih => simp [executeAll, ih]

/-- Operations fail behind the first one if that succeeds and the others fail from where it ends. -/
theorem failsAt_cons_succ : FailsAt c (op :: ops) st (k + 1) st₁ e ↔
    ∃ t, (op.execute c).run st = (.ok (), t) ∧ FailsAt c ops t k st₁ e := by
  constructor
  · rintro ⟨hbefore, hfails⟩
    obtain ⟨_, t, hop, hrest⟩ := Build.run_bind_eq_ok_iff.1 hbefore
    exact ⟨t, hop, hrest, hfails⟩
  · rintro ⟨t, hop, hrest, hfails⟩
    exact ⟨Build.run_bind_eq_ok_iff.2 ⟨(), t, hop, hrest⟩, hfails⟩

/-- A request fails if and only if one of its operations does, in the store that those before it leave. -/
theorem executeAll_error_iff : ((executeAll c ops).run st).1 = .error e ↔ ∃ k st₁, FailsAt c ops st k st₁ e := by
  induction ops generalizing st with
  | nil =>
    refine ⟨nofun, ?_⟩
    rintro ⟨k, st₁, -, op, hop, -⟩
    simp at hop
  | cons op ops ih =>
    have hsplit : (∃ k st₁, FailsAt c (op :: ops) st k st₁ e) ↔
        ((op.execute c).run st).1 = .error e ∨
          ∃ t, (op.execute c).run st = (.ok (), t) ∧ ∃ k st₁, FailsAt c ops t k st₁ e := by
      constructor
      · rintro ⟨_ | k, st₁, h⟩
        · obtain ⟨hbefore, op', hop, hfails⟩ := h
          obtain rfl := Option.some.inj hop
          obtain ⟨-, rfl⟩ := Prod.mk.inj hbefore
          exact .inl hfails
        · obtain ⟨t, hop, hrest⟩ := failsAt_cons_succ.1 h
          exact .inr ⟨t, hop, k, st₁, hrest⟩
      · rintro (h | ⟨t, hop, k, st₁, hrest⟩)
        · exact ⟨0, st, rfl, op, rfl, h⟩
        · exact ⟨k + 1, st₁, failsAt_cons_succ.2 ⟨t, hop, hrest⟩⟩
    rw [hsplit, executeAll, Build.run_bind_error_iff]
    simp only [ih, Unique.exists_iff]

/-- Where an operation fails the request ends, with the error and in the store of that operation. -/
theorem FailsAt.run_executeAll (h : FailsAt c ops st k st₁ e) (later : List UpdateOperation) :
    ∃ op st₂, ops[k]? = some op ∧ (op.execute c).run st₁ = (.error e, st₂) ∧
      (executeAll c (ops.take (k + 1) ++ later)).run st = (.error e, st₂) := by
  obtain ⟨hbefore, op, hop, hfails⟩ := h
  have hrun : (op.execute c).run st₁ = (.error e, ((op.execute c).run st₁).2) := Prod.ext hfails rfl
  refine ⟨op, _, hop, hrun, ?_⟩
  rw [List.take_add_one, hop, Option.toList_some, List.append_assoc, executeAll_append, Build.run_bind_ok hbefore,
    List.singleton_append, executeAll, Build.run_bind, hrun]

end UpdateOperation

namespace Session

open UpdateOperation

variable {x : Session} {hints : Option Hints}

/-- An update fails exactly if one of its operations does. -/
theorem update_error_iff : (x.update ops hints st).1 = .error e ↔ ∃ k st₁, FailsAt (x.scope hints) ops st k st₁ e :=
  executeAll_error_iff

/-- An operation that fails ends the request with its error: no operation after it is carried out, and the dataset is
the one that the operations before it have left. -/
theorem update_of_failsAt (hlocal : ∀ op ∈ ops, op.isLocal = true) (h : FailsAt (x.scope hints) ops st k st₁ e) :
    (x.update ops hints st).1 = .error e ∧
    (∀ later, x.update (ops.take (k + 1) ++ later) hints st = x.update ops hints st) ∧
    x.update (ops.take k) hints st = (.ok (), st₁.clearCache) ∧ (x.update ops hints st).2.dataset = st₁.dataset := by
  obtain ⟨op, st₂, hop, hrun, -⟩ := h.run_executeAll []
  have hupdate : ∀ later, x.update (ops.take (k + 1) ++ later) hints st = (.error e, st₂.clearCache) := by
    intro later
    obtain ⟨op', st₂', hop', hrun', hall⟩ := h.run_executeAll later
    obtain rfl := Option.some.inj (hop.symm.trans hop')
    obtain ⟨-, rfl⟩ := Prod.mk.inj (hrun.symm.trans hrun')
    rw [update, hall]
  have hwhole : x.update ops hints st = (.error e, st₂.clearCache) := by
    rw [← hupdate (ops.drop (k + 1)), List.take_append_drop]
  have hkept : st₂.dataset = st₁.dataset :=
    dataset_of_execute_error (active_scope x hints) (visible_scope x hints) (hlocal op (List.mem_of_getElem? hop)) hrun
  refine ⟨by rw [hwhole], fun later => by rw [hupdate, hwhole], ?_, by rw [hwhole]; exact hkept⟩
  rw [update, h.before]

/-- A triple is inserted, a graph that is not there is to be copied over it, and another triple would be inserted. -/
theorem update_of_failsAt_copy :
    let p : Iri := ⟨"http://example.com/p"⟩
    let g : Iri := ⟨"http://example.com/g"⟩
    let quad : Quad := ⟨⟨.iri p, p, .iri p⟩, .default⟩
    let x : Session := ⟨⟨.streaming, .standard⟩, ⟨[], .iri p⟩⟩
    let st : Store := ⟨.empty fun _ => .none, some (.empty 8), 0⟩
    let ops : List UpdateOperation := [.insertData [quad], .transfer .copy (.named g) .default false,
      .deleteInsert [] [⟨UpdateOperation.anyTriple, .named (.iri g)⟩] none (.bgp [UpdateOperation.anyTriple])]
    let st₁ := ((executeAll (x.scope none) (ops.take 1)).run st).2
    (∀ op ∈ ops, op.isLocal = true) ∧ FailsAt (x.scope none) ops st 1 st₁ (.graphMissing g) ∧
      (x.update ops none st).1 = .error (.graphMissing g) ∧
      (∀ later, x.update (ops.take 2 ++ later) none st = x.update ops none st) ∧
      x.update (ops.take 1) none st = (.ok (), st₁.clearCache) ∧ (x.update ops none st).2.dataset = st₁.dataset := by
  intro p g quad x st ops st₁
  have hlocal : ∀ op ∈ ops, op.isLocal = true := by decide +kernel
  have hfails : FailsAt (x.scope none) ops st 1 st₁ (.graphMissing g) := by
    refine ⟨rfl, .transfer .copy (.named g) .default false, rfl, ?_⟩
    decide +kernel
  exact ⟨hlocal, hfails, update_of_failsAt hlocal hfails⟩

/-- A transfer of a request that is not silent fails if and only if its source is a named graph that is not there, and it
is no copy or move of that graph onto itself; the failure names the graph. A silent one never fails. Without a source
nothing changes, however the transfer ends. -/
theorem transfer_error_iff (x : Session) (hints : Option Hints) (st : Store) (kind : Transfer)
    (source target : GraphName) (e : QueryError) :
    ((((UpdateOperation.transfer kind source target false).execute (x.scope hints)).run st).1 = .error e ↔
      ∃ iri, source = .named iri ∧ st.dataset.hasNamed iri = false ∧ (kind = .add ∨ source ≠ target) ∧
        e = .graphMissing iri) ∧
    (((UpdateOperation.transfer kind source target true).execute (x.scope hints)).run st).1 = .ok () ∧
    (st.dataset.hasGraph source = false → ∀ silent,
      (((UpdateOperation.transfer kind source target silent).execute (x.scope hints)).run st).2 = st) := by
  simp only [UpdateOperation.execute]
  cases hthere : st.dataset.hasGraph source with
  | true =>
    have hrun : ∀ silent, ∃ st', (executeTransfer (x.scope hints) kind source target silent).run st = (.ok (), st') :=
      fun silent => exists_executeTransfer (active_scope x hints) (visible_scope x hints) target kind silent hthere
    obtain ⟨_, hloud⟩ := hrun false
    obtain ⟨_, hsilent⟩ := hrun true
    rw [hloud, hsilent]
    refine ⟨⟨?_, ?_⟩, rfl, ?_⟩
    · intro h
      cases h
    · rintro ⟨iri, hsource, hmissing, -⟩
      rw [Dataset.hasGraph_eq_false_iff.2 ⟨iri, hsource, hmissing⟩] at hthere
      cases hthere
    · intro h
      cases h
  | false =>
    obtain ⟨iri, rfl, hmissing⟩ := Dataset.hasGraph_eq_false_iff.1 hthere
    have hkept : ∀ silent, ((executeTransfer (x.scope hints) kind (.named iri) target silent).run st).2 = st := by
      intro silent
      rw [run_executeTransfer_missing hmissing]
    rw [run_executeTransfer_missing hmissing, run_executeTransfer_missing hmissing]
    refine ⟨?_, rfl, fun _ => hkept⟩
    by_cases hlooks : kind = .add ∨ .named iri ≠ target
    · rw [if_pos ⟨rfl, hlooks⟩]
      constructor
      · intro h
        exact ⟨iri, rfl, hmissing, hlooks, (Except.error.inj h).symm⟩
      · rintro ⟨iri', hsource, -, -, rfl⟩
        obtain rfl := GraphName.named.inj hsource
        rfl
    · rw [if_neg (mt And.right hlooks)]
      constructor
      · intro h
        cases h
      · rintro ⟨iri', hsource, -, hlooks', -⟩
        exact absurd hlooks' hlooks

/-- A graph that is not there is to be moved over another one, which keeps its triple. -/
theorem transfer_error_iff_move :
    let p : Iri := ⟨"http://example.com/p"⟩
    let g : Iri := ⟨"http://example.com/g"⟩
    let x : Session := ⟨⟨.streaming, .standard⟩, ⟨[], .iri p⟩⟩
    let st : Store := ⟨(Dataset.empty fun _ => .none).insertQuad ⟨⟨.iri p, p, .iri p⟩, .default⟩, some (.empty 8), 0⟩
    let run := fun silent => ((UpdateOperation.transfer .move (.named g) .default silent).execute (x.scope none)).run st
    st.dataset.hasGraph (.named g) = false ∧ (run false).1 = .error (.graphMissing g) ∧ (run true).1 = .ok () ∧
      ∀ silent, (run silent).2 = st := by
  intro p g x st run
  have hmissing : st.dataset.hasGraph (.named g) = false := by decide +kernel
  obtain ⟨hloud, hsilent, hkept⟩ := transfer_error_iff x none st .move (.named g) .default (.graphMissing g)
  exact ⟨hmissing, hloud.2 ⟨g, rfl, hmissing, .inr nofun, rfl⟩, hsilent, hkept hmissing⟩

end Session

end SparqlAlgebra

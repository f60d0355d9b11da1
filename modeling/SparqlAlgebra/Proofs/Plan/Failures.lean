import SparqlAlgebra.Proofs.Plan.SourceRows
import SparqlAlgebra.Proofs.Stage.Failures

/-!
# Failures that do not come out

Item by item, an offset drops whatever comes first, also a failure. A silent service ends at the first failure among all
that runs through it. So a failure of the source is silenced like one of the endpoint, and a row that fails at its
endpoint ends the later rows as well, or takes the other rows along if the engine works on whole lists.
-/

namespace SparqlAlgebra

open Stage

namespace Plan

variable {c : Scope} {inner : Plan} {source : Flow Solution} {st t : Store}

/-! ## Offsets -/

/-- Without a length a slice drops as many items as its start says. -/
theorem run_slice_of_ok {stage : Flow Solution} (n : Nat) (h : (inner c source).run st = (.ok stage, t)) :
    (slice n none inner c source).run st = (.ok (if n > 0 then c.engine.skip n stage else stage), t) := by
  rw [slice, Build.run_bind_ok h]
  rfl

/-- Dropping the first items of a stage drops the failures among them as well, if the engine works item by item: only a
failure that comes later is left. An offset without a limit does that to the stage of its pattern, and it fails to be
built just if its pattern does. -/
theorem slice_offsets (n : Nat) :
    (∀ (σ ε α : Type) (g : Engine) (stage : Stage σ ε α) (s : σ), g.Offsets n stage (g.skip n stage) s) ∧
    ∀ (inner : Plan) (c : Scope) (source : Flow Solution) (st t : Store),
      (∀ e, (inner c source).run st = (.error e, t) → (slice n none inner c source).run st = (.error e, t)) ∧
      ∀ stage, (inner c source).run st = (.ok stage, t) → ∃ sliced,
        (slice n none inner c source).run st = (.ok sliced, t) ∧ ∀ u, c.engine.Offsets n stage sliced u := by
  refine ⟨fun _ _ _ g stage s => g.offsets_skip n stage s, fun inner c source st t => ⟨fun e h => ?_, ?_⟩⟩
  · rw [slice, Build.run_bind, h]
  · intro stage h
    refine ⟨_, run_slice_of_ok n h, fun u => ?_⟩
    cases n with
    | zero => exact c.engine.offsets_zero stage u
    | succ n => exact c.engine.offsets_skip (n + 1) stage u

/-- Nothing comes of an offset of one over a service that is not named: the failure is dropped. -/
theorem slice_offsets_drops_failure :
    let e : Variable := ⟨"e"⟩
    let st : Store := ⟨⟨.empty defaultGraphIri ⟨true, true⟩, [], fun _ => ⟨true, true⟩⟩, none, 0⟩
    let c : Scope := ⟨⟨.streaming, ⟨1, .structural, false⟩⟩, ⟨[], .iri ⟨"http://example.com/p"⟩⟩, .default, none⟩
    let inner : Plan := service (.var e) (Pattern.bgp []).plan false
    ∃ stage sliced, (inner c (.ofList [.empty])).run st = (.ok stage, st) ∧
      (slice 1 none inner c (.ofList [.empty])).run st = (.ok sliced, st) ∧
      (stage.collect st).1 = .error .unboundService ∧ ¬ ∃ f, (sliced.collect st).1 = .error f := by
  intro e st c inner
  obtain ⟨sliced, hsliced, hoffsets⟩ := ((slice_offsets 1).2 inner c (.ofList [.empty]) st st).2 _ rfl
  refine ⟨_, sliced, rfl, hsliced, rfl, fun hfails => ?_⟩
  obtain h | ⟨f, h⟩ := ((hoffsets st).fails_iff .unboundService rfl).1 hfails
  · exact absurd h (by decide)
  · exact absurd h List.not_mem_nil

/-! ## Silence -/

/-- What is silenced delivers what is left of the items of its run, without a failure. -/
theorem collect_silence (g : Engine) (stage : Flow Solution) (st : Store) :
    ((silence g stage).collect st).1 = .ok (g.kept (stage.run st).1) := g.collect_recover_done stage st

/-- A silent service leaves the store as the same service does if it is not silent, and has its stage silenced. -/
theorem run_service_silent (name : IriSlot) (inner : Plan) (c : Scope) (source : Flow Solution) (st : Store) :
    (service name inner true c source).run st =
      (.ok (match ((service name inner false c source).run st).1 with
        | .ok stage => silence c.engine stage
        | .error _ => .done), ((service name inner false c source).run st).2) := by
  cases name with
  | var v => rfl
  | iri iri =>
    have hloud : (service (.iri iri) inner false c source).run st = (endpoint c iri inner source).run st := rfl
    rw [hloud, service, Build.run_bind_ok (Build.run_get st)]
    rcases (endpoint c iri inner source).run st with ⟨e | stage, t⟩
    · rfl
    · rfl

end Plan

namespace Pattern

open Plan

variable {c : Scope} {v : Variable} {p : Pattern} {st : Store} {rows : List Solution}

/-- A silent service is always built and never fails: it delivers what is left of the same service that is not silent,
if that ends at its first failure. So failures of the source are passed on only if there are none. If the rows name
their services, a failure of the source leaves what the rows in front of it have delivered, or nothing on whole lists.
-/
theorem silent_service_completes (name : IriSlot) (p : Pattern) (c : Scope) (source : Flow Solution) (st : Store) :
    let loud := ((Pattern.service name p false).plan c source).run st
    ∃ stage, ((Pattern.service name p true).plan c source).run st = (.ok stage, loud.2) ∧
      (∀ t, (stage.collect t).1 = .ok (match loud.1 with
        | .ok f => c.engine.kept (f.run t).1
        | .error _ => [])) ∧
      (∀ t, (∀ e, (source.collect t).1 = .error e → (stage.collect t).1 = .error e) ↔
        ∃ rows, (source.collect t).1 = .ok rows) ∧
      ∀ v before e later answered t u, name = .var v → source = .ofItems (before.map .ok ++ .error e :: later) →
        Vectorized.collectEach (atService c v p.plan) before t = (.ok answered, u) →
        (∃ f, loud = (.ok f, st) ∧ (f.collect t).1 = .error e) ∧ (stage.collect t).1 = .ok (match c.engine with
          | .streaming => answered
          | .vectorized => []) := by
  intro loud
  have hloud : loud = (Plan.service name p.plan false c source).run st := by rw [← Pattern.plan]
  rw [Pattern.plan, run_service_silent, ← hloud]
  have hcollect : ∀ t, ((match loud.1 with
      | .ok f => silence c.engine f
      | .error _ => .done : Flow Solution).collect t).1 = .ok (match loud.1 with
        | .ok f => c.engine.kept (f.run t).1
        | .error _ => []) := by
    intro t
    cases loud.1 with
    | ok f => exact collect_silence c.engine f t
    | error e => rfl
  refine ⟨_, rfl, hcollect, fun t => ?_, ?_⟩
  · rw [hcollect]
    cases (source.collect t).1 with
    | ok rows => simp
    | error e => simp
  · rintro v before e later answered t u rfl rfl hbefore
    obtain ⟨hfails, hkept⟩ := c.engine.mergeMap_ofItems_failure (e := e) hbefore later
    rw [hcollect, hloud]
    exact ⟨⟨_, rfl, hfails⟩, congrArg Except.ok hkept⟩

/-- One row names a known endpoint, and then the source fails: a silent service delivers the row and no failure. -/
theorem silent_service_completes_source_failed :
    let g : Iri := ⟨"http://example.com/g"⟩
    let e : Variable := ⟨"e"⟩
    let d : Dataset :=
      ⟨.empty defaultGraphIri ⟨true, true⟩, [(g, .empty g ⟨true, true⟩)], fun _ => ⟨true, true⟩⟩
    let st : Store := ⟨d, none, 0⟩
    let c : Scope := ⟨⟨.streaming, ⟨1, .structural, false⟩⟩, ⟨[], .iri g⟩, .default, none⟩
    let row : Solution := Solution.empty.insert e (.iri g)
    let source : Flow Solution := .ofItems [.ok row, .error .unboundService]
    ∃ loud silent, ((Pattern.service (.var e) (.bgp []) false).plan c source).run st = (.ok loud, st) ∧
      ((Pattern.service (.var e) (.bgp []) true).plan c source).run st = (.ok silent, st) ∧
      (source.collect st).1 = .error .unboundService ∧ (loud.collect st).1 = .error .unboundService ∧
      (silent.collect st).1 = .ok [row] ∧
      ¬ ∀ f, (source.collect st).1 = .error f → (silent.collect st).1 = .error f := by
  intro g e d st c row source
  obtain ⟨silent, hsilent, -, hiff, hrows⟩ := silent_service_completes (.var e) (.bgp []) c source st
  have hanswered : (Vectorized.collectEach (atService c e (Pattern.bgp []).plan) [row] st).1 = .ok [row] := by
    decide +kernel
  obtain ⟨⟨loud, hloud, hfails⟩, hkept⟩ :=
    hrows e [row] .unboundService [] [row] st _ rfl rfl (Prod.ext hanswered rfl)
  refine ⟨loud, silent, hloud, hsilent, rfl, hfails, hkept, fun h => ?_⟩
  obtain ⟨rows, hall⟩ := (hiff st).1 h
  cases hall

/-! ## Each row on its own -/

/-- What is touched at the services that some rows name. -/
def touchesAt (p : Pattern) (v : Variable) (rows : List Solution) : List Touch :=
  rows.flatMap fun s => match s.get? v with
    | some (.iri iri) => .create iri :: p.touches (.named iri)
    | _ => []

/-- No graph is created by a pattern without services at endpoints that are known. -/
theorem createsNone_touchesAt {d : Dataset} (hp : p.isLocal = true)
    (h : ∀ s ∈ rows, ∀ iri, s.get? v = some (.iri iri) → d.hasNamed iri = true) :
    ∀ x ∈ p.touchesAt v rows, x.CreatesNone d := by
  intro x hx
  obtain ⟨s, hs, hx⟩ := List.mem_flatMap.1 hx
  split at hx
  · rename_i iri hiri
    obtain rfl | hx := List.mem_cons.1 hx
    · exact h s hs iri hiri
    · exact p.createsNone_of_isLocal hp _ x hx
  · exact absurd hx List.not_mem_nil

end Pattern

namespace Plan

variable {P : Store → Prop} {c : Scope} {d : Dataset} {v : Variable} {p : Pattern} {s : Solution}

/-- The solutions at the service that a row names, for this row alone: none if it fails, or if none is named. -/
def solutionsAt (c : Scope) (v : Variable) (inner : Plan) (st : Store) (s : Solution) : List Solution :=
  match s.get? v with
  | some (.iri iri) => ((endpoint c iri inner (.ofList [s]) >>= collect).run st).1.toOption.getD []
  | _ => []

/-- Building a plan later is building and collecting it now. -/
theorem collect_later (b : Build (Flow Solution)) (st : Store) : (later b).collect st = (b >>= collect).run st := by
  rw [later, act, collect_read, Build.run_bind, now]
  rcases b.run st with ⟨e | stage, t⟩
  · rfl
  · rfl

/-- What a silent service leaves for a row is what is found at the service, or nothing. -/
theorem collect_atService (c : Scope) (v : Variable) (inner : Plan) (st : Store) (s : Solution) :
    ((atService c v inner s).collect st).1.toOption.getD [] = solutionsAt c v inner st s := by
  unfold atService solutionsAt
  cases s.get? v with
  | none => rfl
  | some x =>
    cases x with
    | iri iri => rw [collect_later]
    | blank => rfl
    | literal => rfl

/-- Where nothing is created or drawn and look-ups are answered, it does not matter which rows have come before. -/
theorem selfSimilar_atService (hd : ∀ s, P s → s.dataset = d) (hp : p.isSteady = true)
    (h : ∀ x ∈ p.touchesAt v [s], x.Harmless P c d) : SelfSimilar (Both P) (atService c v p.plan s) := by
  rw [Pattern.touchesAt, List.flatMap_singleton] at h
  unfold atService
  split
  · rename_i iri hiri
    simp only [hiri, List.forall_mem_cons] at h
    have hendpoint : Plan.Similar (Both P) (c.withActive (.named iri)) p.plan :=
      p.similar_plan (Both.dataset_eq hd) _ _ ⟨fun x hx => (h.2 x hx).hides hd, .inl hp⟩ (.refl _)
    exact similar_later (similar_endpoint (Both.dataset_eq hd) (h.1.hides hd) hendpoint (.ofList [s]))
  · exact .fail _

end Plan

namespace Pattern

variable {c : Scope} {v : Variable} {p : Pattern} {st : Store} {rows : List Solution}

/-- Over rows that name their services, a silent service does not fail but ends at the first row that does. What is left
is what the rows in front of it and the beginning of its own answer have delivered, or nothing on whole lists. That is
what the rows deliver each by itself just if ending there costs nothing. Without volatile functions, new graphs and
outdated solutions, what a row delivers by itself does not depend on the rows in front of it. -/
theorem silent_service_row_by_row (p : Pattern) (c : Scope) (v : Variable) (rows : List Solution) (st : Store) :
    let answers := Plan.atService c v p.plan
    ∃ out, (((Pattern.service (.var v) p true).plan c (.ofList rows) >>= Plan.collect).run st).1 = .ok out ∧
      (∀ before s after answered t, rows = before ++ s :: after →
        Vectorized.collectEach answers before st = (.ok answered, t) → (∃ e, ((answers s).collect t).1 = .error e) →
        out = match c.engine with
          | .streaming => answered ++ (splitAtFailure ((answers s).run t).1).1
          | .vectorized => []) ∧
      (out.Perm (collectApart answers rows st).1 ↔ c.engine.LosesNothing answers rows st) ∧
      (p.isSteady = true → (∀ x ∈ p.touchesAt v rows, x.CreatesNone st.dataset) →
        (st.cache = none ∨ ToldApart st.dataset (c.lookups st.dataset (p.touchesAt v rows)) ∧
          ∀ e ∈ st.kept, Current st.dataset (c.lookups st.dataset (p.touchesAt v rows)) e) →
        (collectApart answers rows st).1 = rows.flatMap (Plan.solutionsAt c v p.plan st)) := by
  intro answers
  have hcollect : (((Pattern.service (.var v) p true).plan c (.ofList rows) >>= Plan.collect).run st).1 =
      .ok (c.engine.kept ((c.engine.mergeMap answers (.ofList rows)).run st).1) := by
    rw [Pattern.plan, Build.run_bind_ok (Plan.run_service_silent (.var v) p.plan c (.ofList rows) st)]
    exact Plan.collect_silence c.engine _ st
  refine ⟨_, hcollect, ?_, c.engine.perm_collectApart_iff answers rows st, fun hp hservices hkept => ?_⟩
  · rintro before s after answered t rfl hbefore ⟨e, hs⟩
    exact c.engine.kept_mergeMap_of_error hbefore hs
  · obtain ⟨P, hst, hP, hanswers⟩ := exists_answers hkept
    have hharmless := Touch.harmless_of_answers hanswers hservices
    rw [collectApart_of_selfSimilar hst hst]
    · exact List.flatMap_congr fun s _ => Plan.collect_atService c v p.plan st s
    · intro s hs
      refine Plan.selfSimilar_atService hP hp fun x hx => hharmless x ?_
      rw [touchesAt, List.flatMap_singleton] at hx
      exact List.mem_flatMap.2 ⟨s, hs, hx⟩

/-- A row that names no endpoint between two rows that do: item by item, the one behind it has no solutions, although
its endpoint has one. -/
theorem silent_service_row_by_row_unnamed :
    let knows : Iri := ⟨"http://example.com/knows"⟩
    let first : Iri := ⟨"http://example.com/g1"⟩
    let second : Iri := ⟨"http://example.com/g2"⟩
    let e : Variable := ⟨"e"⟩
    let x : Variable := ⟨"x"⟩
    let t : Triple := ⟨.iri ⟨"http://example.com/a"⟩, knows, .iri ⟨"http://example.com/b"⟩⟩
    let d : Dataset := ⟨.empty defaultGraphIri ⟨true, true⟩,
      [(first, (Graph.empty first ⟨true, true⟩).insert t), (second, (Graph.empty second ⟨true, true⟩).insert t)],
      fun _ => ⟨true, true⟩⟩
    let st : Store := ⟨d, none, 0⟩
    let c : Scope := ⟨⟨.streaming, ⟨1, .structural, false⟩⟩, ⟨[], .iri knows⟩, .default, none⟩
    let p : Pattern := .bgp [⟨.var x, .iri knows, .term (.iri ⟨"http://example.com/b"⟩)⟩]
    let row : Iri → Solution := fun iri => Solution.empty.insert e (.iri iri)
    let rows : List Solution := [row first, .empty, row second]
    let answer : Iri → Solution := fun iri => (row iri).insert x (.iri ⟨"http://example.com/a"⟩)
    let answers := Plan.atService c e p.plan
    (((Pattern.service (.var e) p true).plan c (.ofList rows) >>= Plan.collect).run st).1 = .ok [answer first] ∧
      (collectApart answers rows st).1 = rows.flatMap (Plan.solutionsAt c e p.plan st) ∧
      rows.flatMap (Plan.solutionsAt c e p.plan st) = [answer first, answer second] ∧
      ¬ c.engine.LosesNothing answers rows st := by
  intro knows first second e x t d st c p row rows answer answers
  obtain ⟨out, hout, hends, hperm, hapart⟩ := silent_service_row_by_row p c e rows st
  have hanswered : (Vectorized.collectEach answers [row first] st).1 = .ok [answer first] := by decide +kernel
  obtain rfl : out = [answer first] :=
    hends [row first] .empty [row second] [answer first] _ rfl (Prod.ext hanswered rfl) ⟨.unboundService, rfl⟩
  have hsolutions : rows.flatMap (Plan.solutionsAt c e p.plan st) = [answer first, answer second] := by decide +kernel
  have hservices : ∀ y ∈ p.touchesAt e rows, y.CreatesNone st.dataset := by
    refine createsNone_touchesAt (by decide) fun s hs iri hiri => ?_
    obtain rfl | rfl | rfl : s = row first ∨ s = .empty ∨ s = row second := by simpa [rows] using hs
    · cases hiri
      decide
    · cases hiri
    · cases hiri
      decide
  have hsteady := hapart (by decide) hservices (.inl rfl)
  refine ⟨hout, hsteady, hsolutions, fun hnothing => ?_⟩
  have hlength := (hperm.2 hnothing).length_eq
  rw [hsteady, hsolutions] at hlength
  exact absurd hlength (by decide)

end Pattern

end SparqlAlgebra

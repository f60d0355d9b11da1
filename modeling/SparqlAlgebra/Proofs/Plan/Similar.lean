import SparqlAlgebra.Plan.Pattern
import SparqlAlgebra.Proofs.Algebra.Steady
import SparqlAlgebra.Proofs.Join.Similar
import SparqlAlgebra.Proofs.Plan.Build

/-!
# Plans that cannot be told apart

Two stores may differ in what they have kept and yet give the same answers. A plan is similar to itself for a
relation of stores if it makes similar stages of similar stages, or fails in both stores alike, and leaves the
stores related. Each combination of plans keeps this.
-/

namespace SparqlAlgebra

open Stage

/-- Both results are values that are related or the same failure, and the stores are related. -/
inductive SameResult {α : Type} (R : Store → Store → Prop) (Q : α → α → Prop) :
    Except QueryError α × Store → Except QueryError α × Store → Prop
  | ok {a b : α} {s t : Store} : Q a b → R s t → SameResult R Q (.ok a, s) (.ok b, t)
  | error {e : QueryError} {s t : Store} : R s t → SameResult R Q (.error e, s) (.error e, t)

/-- Results that are equal are equal as results. -/
theorem SameResult.fst_eq {α : Type} {R : Store → Store → Prop} {a b : Except QueryError α × Store}
    (h : SameResult R Eq a b) : a.1 = b.1 := by
  cases h with
  | ok hq _ => rw [hq]
  | error _ => rfl

/-- The stores after the same results are related. -/
theorem SameResult.snd {α : Type} {R : Store → Store → Prop} {Q : α → α → Prop} {a b : Except QueryError α × Store}
    (h : SameResult R Q a b) : R a.2 b.2 := by
  cases h with
  | ok _ hR => exact hR
  | error hR => exact hR

/-- Constructions that go on alike have the same result, in stores that may be related more loosely. -/
theorem SameResult.bind {α β : Type} {R R' : Store → Store → Prop} {Q : α → α → Prop} {Q' : β → β → Prop}
    {x y : Build α} {f g : α → Build β} {s t : Store} (h : SameResult R Q (x.run s) (y.run t))
    (hsub : ∀ s t, R s t → R' s t)
    (hf : ∀ a b s t, Q a b → R s t → SameResult R' Q' ((f a).run s) ((g b).run t)) :
    SameResult R' Q' ((x >>= f).run s) ((y >>= g).run t) := by
  rw [Build.run_bind, Build.run_bind]
  rcases hxs : x.run s with ⟨v, s'⟩
  rcases hyt : y.run t with ⟨w, t'⟩
  rw [hxs, hyt] at h
  cases h with
  | ok hq hR => exact hf _ _ _ _ hq hR
  | error hR => exact .error (hsub _ _ hR)

/-- From related stores on the constructions have the same result. -/
def Build.Similar {α : Type} (R : Store → Store → Prop) (Q : α → α → Prop) (x y : Build α) : Prop :=
  ∀ s t, R s t → SameResult R Q (x.run s) (y.run t)

/-- A relation of stores that differ in nothing but what they have kept. -/
structure Indistinct (R : Store → Store → Prop) : Prop where
  /-- Related stores have the same dataset. -/
  dataset : ∀ s t, R s t → s.dataset = t.dataset
  /-- Related stores draw the same values next. -/
  seed : ∀ s t, R s t → s.seed = t.seed
  /-- Drawing the same values keeps stores related. -/
  reseed : ∀ s t n, R s t → R { s with seed := n } { t with seed := n }

/-- Drawing values does not tell the stores apart. -/
structure Redraws (R : Store → Store → Prop) : Prop where
  /-- Related stores draw the same values next. -/
  seed : ∀ s t, R s t → s.seed = t.seed
  /-- Drawing the same values keeps stores related. -/
  reseed : ∀ s t n, R s t → R { s with seed := n } { t with seed := n }

variable {R : Store → Store → Prop} {c : Scope} {s t : Store}

/-- Drawing values keeps indistinct stores related. -/
theorem Indistinct.redraws (hI : Indistinct R) : Redraws R := ⟨hI.seed, hI.reseed⟩

/-- The values that an expression draws, if it draws any, do not tell the stores apart. -/
def Expression.HidesDraws (R : Store → Store → Prop) (c : Scope) (e : Expression) : Prop :=
  ∀ r, e.ready c.compiler = .ok r → r.draws ≠ 0 → Redraws R

/-- An expression that draws nothing hides what is drawn. -/
theorem Expression.HidesDraws.of_isSteady {e : Expression} (h : e.isSteady = true ∨ Redraws R) : e.HidesDraws R c :=
  fun _ hr hdraws => h.resolve_left fun he => hdraws (Expression.ready_steady he hr).1

namespace Build.Similar

variable {α β : Type} {Q : α → α → Prop} {Q' : β → β → Prop} {x y : Build α}

/-- Values that are related are related results. -/
theorem pure {a b : α} (h : Q a b) : Build.Similar R Q (Pure.pure a) (Pure.pure b) := fun _ _ hR => .ok h hR

/-- An error is the same in both stores. -/
theorem throw (e : QueryError) : Build.Similar R Q (MonadExcept.throw e) (MonadExcept.throw e) :=
  fun _ _ hR => .error hR

/-- Reading related stores gives related stores. -/
theorem get : Build.Similar R R (MonadState.get : Build Store) MonadState.get := fun _ _ hR => .ok hR hR

/-- Related stores may be written. -/
theorem set (h : R s t) : Build.Similar R Eq (MonadStateOf.set s : Build Unit) (MonadStateOf.set t) :=
  fun _ _ _ => .ok rfl h

/-- The second steps start from related results in related stores. -/
theorem bind {f g : α → Build β} (h : Build.Similar R Q x y) (hf : ∀ a b, Q a b → Build.Similar R Q' (f a) (g b)) :
    Build.Similar R Q' (x >>= f) (y >>= g) :=
  fun s t hR => (h s t hR).bind (fun _ _ h => h) fun a b s t hq hR => hf a b hq s t hR

/-- Steps that are made for each item keep the stores related if each of them does. -/
theorem forM {ps : List α} {f g : α → Build PUnit} (h : ∀ p ∈ ps, Build.Similar R Eq (f p) (g p)) :
    Build.Similar R Eq (ps.forM f) (ps.forM g) := by
  induction ps with
  | nil => exact .pure rfl
  | cons p ps ih =>
    have hrest := ih fun q hq => h q (List.mem_cons_of_mem _ hq)
    exact (h p List.mem_cons_self).bind fun _ _ _ => hrest

/-- Steps that are made for each item give results with the properties that each has. -/
theorem mapM {P : α → β → Prop} {as : List α} {f : α → Build β}
    (h : ∀ a ∈ as, Build.Similar R (fun x y => x = y ∧ P a x) (f a) (f a)) :
    Build.Similar R (fun xs ys => xs = ys ∧ List.Forall₂ P as xs) (as.mapM f) (as.mapM f) := by
  induction as with
  | nil => exact .pure ⟨rfl, .nil⟩
  | cons a as ih =>
    rw [List.mapM_cons]
    have hrest := ih fun b hb => h b (List.mem_cons_of_mem _ hb)
    refine (h a List.mem_cons_self).bind fun x _ hx => ?_
    obtain ⟨rfl, hx⟩ := hx
    refine hrest.bind fun xs _ hxs => ?_
    obtain ⟨rfl, hxs⟩ := hxs
    exact .pure ⟨rfl, .cons hx hxs⟩

end Build.Similar

/-- In a scope the plan makes similar stages of similar stages. -/
def Plan.Similar (R : Store → Store → Prop) (c : Scope) (p : Plan) : Prop :=
  ∀ f g, Stage.Similar R f g → Build.Similar R (Stage.Similar R) (p c f) (p c g)

namespace Plan

variable {p q : Plan} {tests : List Plan}

/-- What is run at once has the same items, and leaves related stores. -/
theorem similar_now {x y : Build (Flow Solution)} (h : Build.Similar R (Stage.Similar R) x y) (hR : R s t) :
    Stage.Similar R (now x s).1 (now y t).1 ∧ R (now x s).2 (now y t).2 := by
  have hx := h s t hR
  unfold now
  rcases hxs : x.run s with ⟨v, s'⟩
  rcases hyt : y.run t with ⟨w, t'⟩
  rw [hxs, hyt] at hx
  cases hx with
  | ok hq hR => exact ⟨hq, hR⟩
  | error hR => exact ⟨.fail _, hR⟩

/-- What is built later has the same items. -/
theorem similar_later {x y : Build (Flow Solution)} (h : Build.Similar R (Stage.Similar R) x y) :
    Stage.Similar R (later x) (later y) := .act fun _ _ hR => similar_now h hR

/-- Trying to build a plan keeps the stores related. -/
theorem similar_validate (h : Plan.Similar R c p) : Build.Similar R Eq (validate p c) (validate p c) :=
  (h _ _ .done).bind fun _ _ _ => .pure rfl

/-- The tests for a row have the same items, and building them leaves related stores. -/
theorem similar_forEach (h : ∀ p ∈ tests, Plan.Similar R c p) (x : Solution) (hR : R s t) :
    List.Forall₂ (Stage.Similar R) (forEach c x tests s).1 (forEach c x tests t).1 ∧
      R (forEach c x tests s).2 (forEach c x tests t).2 := by
  induction tests generalizing s t with
  | nil => exact ⟨.nil, hR⟩
  | cons p ps ih =>
    obtain ⟨hf, hs⟩ := similar_now (h p List.mem_cons_self _ _ (.ofList [x])) hR
    obtain ⟨hfs, hu⟩ := ih (fun q hq => h q (List.mem_cons_of_mem _ hq)) hs
    rw [forEach_cons, forEach_cons]
    exact ⟨.cons hf hfs, hu⟩

/-- Similar tests have the same answers. -/
theorem similar_answers {fs gs : List (Flow Solution)} (h : List.Forall₂ (Stage.Similar R) fs gs) (hR : R s t) :
    (answers fs s).1 = (answers gs t).1 ∧ R (answers fs s).2 (answers gs t).2 := by
  induction h generalizing s t with
  | nil => exact ⟨rfl, hR⟩
  | @cons f g fs gs hfg _ ih =>
    obtain ⟨hv, hs⟩ := hfg.collect hR
    unfold answers
    rcases hf : f.collect s with ⟨v, s'⟩
    rcases hg : g.collect t with ⟨w, t'⟩
    rw [hf, hg] at hv hs
    obtain rfl : v = w := hv
    cases v with
    | error e => exact ⟨rfl, hs⟩
    | ok xs =>
      obtain ⟨hr, hu⟩ := ih hs
      dsimp only
      rcases hfs : answers fs s' with ⟨v, s''⟩
      rcases hgs : answers gs t' with ⟨w, t''⟩
      rw [hfs, hgs] at hr hu
      obtain rfl : v = w := hr
      cases v with
      | error e => exact ⟨rfl, hu⟩
      | ok as => exact ⟨rfl, hu⟩

/-! ## Expressions -/

/-- An expression is compiled to the same in both stores. -/
theorem similar_compile (c : Scope) (e : Expression) :
    Build.Similar R (fun a b => a = b ∧ e.ready c.compiler = .ok a) (compile c e) (compile c e) := by
  unfold compile
  split
  · rename_i r hr
    exact .pure ⟨rfl, hr⟩
  · exact .throw _

/-- Testing a row gives the same answers. -/
theorem similar_test (h : ∀ p ∈ tests, Plan.Similar R c p) (x : Solution) :
    SelfSimilar R (test c tests x) := by
  refine .act fun s t hR => ?_
  obtain ⟨hf, hs⟩ := similar_forEach h x hR
  have hlimit : List.Forall₂ (Stage.Similar R) ((forEach c x tests s).1.map (c.engine.limit 1))
      ((forEach c x tests t).1.map (c.engine.limit 1)) :=
    List.rel_map (fun _ _ h => c.engine.similar_limit 1 h) hf
  obtain ⟨hv, hu⟩ := similar_answers hlimit hs
  dsimp only
  rcases ha : answers ((forEach c x tests s).1.map (c.engine.limit 1)) (forEach c x tests s).2 with ⟨v, s'⟩
  rcases hb : answers ((forEach c x tests t).1.map (c.engine.limit 1)) (forEach c x tests t).2 with ⟨w, t'⟩
  rw [ha, hb] at hv hu
  obtain rfl : v = w := hv
  cases v with
  | error e => exact ⟨.fail e, hu⟩
  | ok as => exact ⟨.ofList _, hu⟩

/-- Testing all rows gives the same answers in related stores. -/
theorem similar_testAll (h : ∀ p ∈ tests, Plan.Similar R c p) {f g : Flow Solution} (hfg : Stage.Similar R f g) :
    Build.Similar R (Stage.Similar R) (testAll c tests f) (testAll c tests g) := by
  unfold testAll
  split
  · exact .pure (c.engine.similar_map _ hfg)
  · refine (Build.Similar.forM fun p hp => similar_validate (h p hp)).bind fun _ _ _ => ?_
    exact .pure (c.engine.similar_mergeMap (similar_test h) hfg)

/-- Evaluating rows gives the same if no draws are made or the stores stay related by drawing. -/
theorem similar_mapRows {α : Type} (e : Engine) {draws : Nat} (hdraws : draws ≠ 0 → Redraws R) (k : Row → α)
    {f g : Flow (Solution × List Bool)} (hfg : Stage.Similar R f g) :
    Stage.Similar R (mapRows e draws k f) (mapRows e draws k g) := by
  unfold mapRows
  split
  · exact e.similar_map _ hfg
  · rename_i hn
    refine e.similar_mapWithState (fun x s t hR => ?_) hfg
    have hseed := (hdraws hn).seed s t hR
    refine ⟨?_, ?_⟩
    · simp only [takeSeed, hseed]
    · have hnext := (hdraws hn).reseed s t (t.seed + 1) hR
      simpa only [takeSeed, hseed] using hnext

/-- A filter keeps the same rows. -/
theorem similar_applyFilter (h : ∀ p ∈ tests, Plan.Similar R c p) {e : Expression.Ready}
    (he : e.draws ≠ 0 → Redraws R) {f g : Flow Solution} (hfg : Stage.Similar R f g) :
    Build.Similar R (Stage.Similar R) (applyFilter c e tests f) (applyFilter c e tests g) := by
  refine (similar_testAll h hfg).bind fun f g hfg => .pure ?_
  exact c.engine.similar_filterMap _ (similar_mapRows _ he _ hfg)

/-- A solution is kept or not, depending on whether the pattern has a solution for it. -/
theorem similar_keptIfFound (h : Plan.Similar R c p) (negated : Bool) (x : Solution) :
    SelfSimilar R
      (c.engine.filterMap (fun found => if found.isEmpty == negated then some x else none) <|
        c.engine.gather (c.engine.limit 1 (later (p c (.ofList [x]))))) := by
  have hfound := similar_later (h _ _ (.ofList [x]))
  exact c.engine.similar_filterMap _ (c.engine.similar_gather (c.engine.similar_limit 1 hfound))

/-- A filter by whether something exists keeps the same rows in related stores. -/
theorem similar_existsFilter (h : Plan.Similar R c p) (negated : Bool) {f g : Flow Solution}
    (hfg : Stage.Similar R f g) :
    Build.Similar R (Stage.Similar R) (existsFilter c p negated f) (existsFilter c p negated g) :=
  (similar_validate h).bind fun _ _ _ => .pure (c.engine.similar_mergeMap (similar_keptIfFound h negated) hfg)

/-- The plan of a filter shows no difference if those of its pattern and of its tests do not. -/
theorem similar_filter {e : Expression} (he : e.HidesDraws R c) (ht : ∀ p ∈ tests, Plan.Similar R c p)
    (hp : Plan.Similar R c p) : Plan.Similar R c (filter e tests p) := by
  intro f g hfg
  refine (hp f g hfg).bind fun f g hfg => ?_
  split
  · exact similar_existsFilter (ht _ List.mem_cons_self) false hfg
  · exact similar_existsFilter (ht _ List.mem_cons_self) true hfg
  · refine (similar_compile c e).bind fun r _ hr => ?_
    obtain ⟨rfl, hr⟩ := hr
    exact similar_applyFilter ht (he r hr) hfg

/-- An extension binds the same values. -/
theorem similar_applyExtend (v : Variable) {e : Expression} (he : e.HidesDraws R c)
    (ht : ∀ p ∈ tests, Plan.Similar R c p) {f g : Flow Solution} (hfg : Stage.Similar R f g) :
    Build.Similar R (Stage.Similar R) (applyExtend c v e tests f) (applyExtend c v e tests g) := by
  refine (similar_compile c e).bind fun r _ hr => ?_
  obtain ⟨rfl, hr⟩ := hr
  refine (similar_testAll ht hfg).bind fun f g hfg => .pure ?_
  exact c.engine.similar_mergeMap (fun x => .ofList _) (similar_mapRows _ (he r hr) _ hfg)

/-- The plan of an extension shows no difference if its pattern does not and its expression hides what it draws. -/
theorem similar_extend (v : Variable) {e : Expression} (he : e.HidesDraws R c)
    (ht : ∀ p ∈ tests, Plan.Similar R c p) (hp : Plan.Similar R c p) : Plan.Similar R c (extend v e tests p) :=
  fun f g hfg => (hp f g hfg).bind fun _ _ hfg => similar_applyExtend v he ht hfg

/-- A key of an order is compiled to the same in both stores. -/
theorem similar_compileKey (c : Scope) (k : SortKey) :
    Build.Similar R (fun a b => a = b ∧ k.expression.ready c.compiler = .ok a.1) (compileKey c k)
      (compileKey c k) := by
  cases k with
  | ascending e => exact (similar_compile c e).bind fun _ _ h => .pure ⟨by rw [h.1], h.2⟩
  | descending e => exact (similar_compile c e).bind fun _ _ h => .pure ⟨by rw [h.1], h.2⟩

/-- If the keys draw values, one of them does. -/
theorem redraws_of_keys {keys : List SortKey} {ready : List ReadyKey} (hkeys : ∀ k ∈ keys, k.expression.HidesDraws R c)
    (h : List.Forall₂ (fun k r => k.expression.ready c.compiler = .ok r.1) keys ready)
    (hdraws : ready.foldl (fun n r => n + r.1.draws) 0 ≠ 0) : Redraws R := by
  induction h with
  | nil => exact absurd rfl hdraws
  | @cons k r keys ready hr _ ih =>
    by_cases hzero : r.1.draws = 0
    · refine ih (fun k hk => hkeys k (List.mem_cons_of_mem _ hk)) ?_
      rwa [List.foldl_cons, hzero] at hdraws
    · exact hkeys k List.mem_cons_self r.1 hr hzero

/-- An order shows no difference if its pattern does not. -/
theorem similar_orderBy {keys : List SortKey} (hkeys : ∀ k ∈ keys, k.expression.HidesDraws R c)
    (hp : Plan.Similar R c p) : Plan.Similar R c (orderBy keys p) := by
  intro f g hfg
  refine (hp f g hfg).bind fun f g hfg => ?_
  refine (Build.Similar.mapM fun k _ => similar_compileKey c k).bind fun ks _ hks => .pure ?_
  obtain ⟨rfl, hks⟩ := hks
  exact c.engine.similar_rearrange _
    (similar_mapRows _ (redraws_of_keys hkeys hks) _ (c.engine.similar_map _ hfg))

/-! ## Combinations of patterns -/

/-- A join shows no difference if its parts do not. -/
theorem similar_join (hp : Plan.Similar R c p) (hq : Plan.Similar R c q) : Plan.Similar R c (join p q) :=
  fun f g hfg => (hp f g hfg).bind hq

/-- The matches of an optional part for a row are the same. -/
theorem similar_optionalMatches (hq : Plan.Similar R c q) {condition : Option (Expression.Ready × List Plan)}
    (hc : ∀ e ∈ condition, (e.1.draws ≠ 0 → Redraws R) ∧ ∀ p ∈ e.2, Plan.Similar R c p) (x : Solution) :
    SelfSimilar R (optionalMatches c q condition x) := by
  refine .act fun s t hR => ?_
  obtain ⟨hf, hs⟩ := similar_now (hq _ _ (.ofList [x])) hR
  cases condition with
  | none => exact ⟨hf, hs⟩
  | some e => exact similar_now (similar_applyFilter (hc e rfl).2 (hc e rfl).1 hf) hs

/-- The condition of an optional join, compiled. -/
theorem similar_compileCondition {condition : Option (Expression × List Plan)}
    (hc : ∀ e ∈ condition, e.1.HidesDraws R c ∧ ∀ p ∈ e.2, Plan.Similar R c p) :
    Build.Similar R (fun a b => a = b ∧ ∀ e ∈ a, (e.1.draws ≠ 0 → Redraws R) ∧ ∀ p ∈ e.2, Plan.Similar R c p)
      (condition.mapM fun x => do return (← compile c x.1, x.2))
      (condition.mapM fun x => do return (← compile c x.1, x.2)) := by
  cases condition with
  | none => exact .pure ⟨rfl, nofun⟩
  | some e =>
    obtain ⟨hdraws, ht⟩ := hc e rfl
    refine Build.Similar.bind (Q := fun a b => a = b ∧ (a.1.draws ≠ 0 → Redraws R) ∧ a.2 = e.2) ?_ fun a b hab => ?_
    · exact (similar_compile c e.1).bind fun r _ hr => .pure ⟨by rw [hr.1], hdraws r hr.2, rfl⟩
    · obtain ⟨rfl, hdraws, ha⟩ := hab
      refine .pure ⟨rfl, ?_⟩
      rintro _ ⟨⟩
      exact ⟨hdraws, ha ▸ ht⟩

/-- The plan with an optional part shows no difference if those of both parts and of the tests do not. -/
theorem similar_leftJoin (hp : Plan.Similar R c p) (hq : Plan.Similar R c q)
    {condition : Option (Expression × List Plan)}
    (hc : ∀ e ∈ condition, e.1.HidesDraws R c ∧ ∀ p ∈ e.2, Plan.Similar R c p) :
    Plan.Similar R c (leftJoin p q condition) := by
  intro f g hfg
  refine (hp f g hfg).bind fun f g hfg => (similar_validate hq).bind fun _ _ _ => ?_
  refine (similar_compileCondition hc).bind fun ready _ hready => .pure ?_
  obtain ⟨rfl, hready⟩ := hready
  exact c.engine.similar_mergeMap
    (fun x => c.engine.similar_defaultIfEmpty x (similar_optionalMatches hq hready x)) hfg

/-- What several plans have for one solution. -/
theorem similar_merge_forEach (h : ∀ p ∈ tests, Plan.Similar R c p) (x : Solution) :
    SelfSimilar R (.act fun st => let (fs, st) := forEach c x tests st; (c.engine.merge fs, st)) := by
  refine .act fun s t hR => ?_
  obtain ⟨hfs, hs⟩ := similar_forEach h x hR
  exact ⟨c.engine.similar_merge hfs, hs⟩

/-- A union shows no difference if its parts do not. -/
theorem similar_union (hp : Plan.Similar R c p) (hq : Plan.Similar R c q) : Plan.Similar R c (union p q) := by
  intro f g hfg
  refine (similar_validate hp).bind fun _ _ _ => (similar_validate hq).bind fun _ _ _ => .pure ?_
  have hboth : ∀ r ∈ [p, q], Plan.Similar R c r := List.forall_mem_cons.2 ⟨hp, List.forall_mem_singleton.2 hq⟩
  exact c.engine.similar_mergeMap (similar_merge_forEach hboth) hfg

/-- A `MINUS` shows no difference if its parts do not. -/
theorem similar_minus (hp : Plan.Similar R c p) (hq : Plan.Similar R c q) : Plan.Similar R c (minus p q) := by
  intro f g hfg
  refine (hp f g hfg).bind fun f g hfg => (hq _ _ (.ofList _)).bind fun f' g' hfg' => .pure ?_
  exact c.engine.similar_mergeMap (fun _ => c.engine.similar_filter _ hfg) (c.engine.similar_gather hfg')

/-- A table never shows a difference. -/
theorem similar_values (vs : List Variable) (rows : List (List (Option Term))) :
    Plan.Similar R c (values vs rows) :=
  fun _ _ hfg => .pure (c.engine.similar_mergeMap (fun _ => .ofList _) hfg)

/-- A projection shows no difference if its pattern does not. -/
theorem similar_project (vs : List Variable) (hp : Plan.Similar R c p) : Plan.Similar R c (project vs p) := by
  intro f g hfg
  refine (hp _ _ (.ofList _)).bind fun f' g' hfg' => .pure ?_
  refine c.engine.similar_mergeMap (fun table => ?_) (c.engine.similar_gather (c.engine.similar_map _ hfg'))
  exact c.engine.similar_mergeMap (fun _ => .ofList _) hfg

/-- Distinct rows show no difference if their pattern does not. -/
theorem similar_distinct (hp : Plan.Similar R c p) : Plan.Similar R c (distinct p) :=
  fun f g hfg => (hp f g hfg).bind fun _ _ hfg => .pure (c.engine.similar_distinct _ hfg)

/-- A slice shows no difference if its pattern does not. -/
theorem similar_slice (start : Nat) (length : Option Nat) (hp : Plan.Similar R c p) :
    Plan.Similar R c (slice start length p) := by
  intro f g hfg
  refine (hp f g hfg).bind fun f g hfg => .pure ?_
  have hskip : Stage.Similar R (if start > 0 then c.engine.skip start f else f)
      (if start > 0 then c.engine.skip start g else g) := by
    split
    · exact c.engine.similar_skip start hfg
    · exact hfg
  cases length with
  | none => exact hskip
  | some n => exact c.engine.similar_limit n hskip

/-! ## Groups -/

/-- A grouping shows no difference if its pattern does not and its aggregates hide what they draw. -/
theorem similar_group (vs : List Variable) {as : List (Variable × Aggregate)}
    (has : ∀ a ∈ as, ∀ r, a.2.ready c.compiler = .ok r → r.draws ≠ 0 → Redraws R) (hp : Plan.Similar R c p) :
    Plan.Similar R c (group vs as p) := by
  intro f g hfg
  refine (hp f g hfg).bind fun f g hfg => ?_
  refine Build.Similar.bind (Build.Similar.mapM (P := fun a r => a.2.ready c.compiler = .ok r.2) fun a _ => ?_)
    fun rs _ hrs => ?_
  · dsimp only
    split
    · rename_i r hr
      exact .pure ⟨rfl, hr⟩
    · exact .throw _
  obtain ⟨rfl, hrs⟩ := hrs
  rw [bindKeys_vars, bindKeys_vars, pure_bind, pure_bind]
  have hgroups := c.engine.similar_rearrange (Group.ofRows vs) hfg
  dsimp only
  split
  · exact .pure (c.engine.similar_tryMap _ hgroups)
  · rename_i hn
    have hredraws : Redraws R := by
      rw [List.all_eq_true, Classical.not_forall] at hn
      obtain ⟨x, hx⟩ := hn
      obtain ⟨hx, hdraws⟩ := Classical.not_imp.1 hx
      obtain ⟨i, hi, rfl⟩ := List.getElem_of_mem hx
      have hlen : i < as.length := hrs.length_eq ▸ hi
      have hr := (List.forall₂_iff_get.1 hrs).2 i hlen hi
      exact has _ (List.getElem_mem hlen) _ hr (by simpa using hdraws)
    refine .pure (c.engine.similar_filterMapWithState (fun k s t hR => ?_) hgroups)
    rw [hredraws.seed s t hR]
    exact ⟨rfl, hredraws.reseed s t _ hR⟩

end Plan

end SparqlAlgebra

import SparqlAlgebra.Plan.Pattern
import SparqlAlgebra.Proofs.Algebra.Meaning
import SparqlAlgebra.Proofs.Plan.Build
import SparqlAlgebra.Proofs.Solution.BindsIn
import SparqlAlgebra.Proofs.Stage.Only

/-!
# Plans that bind only some variables

A plan stays within some variables if it makes of a source that binds only these, and maybe others, a stage that binds
no more. What is evaluated from scratch or for a test may bind anything, as long as it is projected or forgotten. One
lemma for each way to make a plan of others; all of them keep an invariant that allows what plans do to a store besides
keeping solutions.
-/

namespace SparqlAlgebra

open Solution

variable {P : Store → Prop} {c : Scope} {st : Store} {V W : Set Variable} {source : Flow Solution}

/-- An invariant that lasts when a plan creates an empty graph and when it draws values. -/
structure AllowsPlans (P : Store → Prop) : Prop where
  /-- Creating an empty graph keeps the invariant. -/
  create : ∀ st iri d, st.dataset.create iri = .ok d → P st → P (st.withDataset d)
  /-- Drawing values keeps the invariant. -/
  reseed : ∀ st n, P st → P { st with seed := n }

/-- A property of what stores have kept: a change of the dataset or of the seed does not end it. -/
structure OfCache (P : Store → Prop) : Prop where
  /-- A change of the dataset keeps the property. -/
  withDataset : ∀ st d, P st → P (st.withDataset d)
  /-- A change of the seed keeps the property. -/
  reseed : ∀ st n, P st → P { st with seed := n }

/-- An invariant of the cache alone allows plans. -/
theorem OfCache.allowsPlans (hP : OfCache P) : AllowsPlans P :=
  ⟨fun st _ d _ hst => hP.withDataset st d hst, hP.reseed⟩

namespace Build

variable {α β : Type} {Q : α → Prop} {R : β → Prop} {b : Build α} {f : α → Build β}

/-- From every store within the invariant the construction leaves one within it, and what it makes has a property. -/
def Only (P : Store → Prop) (Q : α → Prop) (b : Build α) : Prop := ∀ st, P st → Stage.Ends P True Q (b.run st)

namespace Only

/-- What is there already has its property. -/
theorem pure {a : α} (h : Q a) : Only P Q (Pure.pure a) := fun _ hst => ⟨hst, h⟩

/-- A failure is always allowed. -/
theorem throw (e : QueryError) : Only P Q (MonadExcept.throw e : Build α) := fun _ hst => ⟨hst, trivial⟩

/-- Reading the store gives one within the invariant. -/
theorem get : Only P P (MonadState.get : Build Store) := fun _ hst => ⟨hst, hst⟩

/-- Only such a store may be written. -/
theorem set (h : P st) : Only P (fun _ => True) (MonadStateOf.set st : Build Unit) := fun _ _ => ⟨h, trivial⟩

/-- The second step starts where the first one ends. -/
theorem bind (h : Only P Q b) (hf : ∀ a, Q a → Only P R (f a)) : Only P R (b >>= f) := by
  intro st hst
  have hb := h st hst
  rw [run_bind]
  rcases hrun : b.run st with ⟨e | a, t⟩
  · rw [hrun] at hb
    exact hb
  · rw [hrun] at hb
    exact hf a hb.2 t hb.1

/-- A property may be weakened. -/
theorem mono {Q' : α → Prop} (hQ : ∀ a, Q a → Q' a) (h : Only P Q b) : Only P Q' b := by
  intro st hst
  have hb := h st hst
  rcases hrun : b.run st with ⟨e | a, t⟩
  · rw [hrun] at hb
    exact hb
  · rw [hrun] at hb
    exact ⟨hb.1, hQ a hb.2⟩

/-- Steps that are made for each item keep the invariant if each of them does. -/
theorem forM {ps : List α} {f : α → Build PUnit} (h : ∀ p ∈ ps, Only P (fun _ => True) (f p)) :
    Only P (fun _ => True) (ps.forM f) := by
  induction ps with
  | nil => exact .pure trivial
  | cons p ps ih =>
    have hrest := ih fun q hq => h q (List.mem_cons_of_mem p hq)
    exact (h p List.mem_cons_self).bind fun _ _ => hrest

/-- What is made of a list has the property if what is made of each of its members has it. -/
theorem mapM {as : List α} {f : α → Build β} (h : ∀ a ∈ as, Only P R (f a)) : Only P (Stage.Each R) (as.mapM f) := by
  induction as with
  | nil => exact .pure .nil
  | cons a as ih =>
    rw [List.mapM_cons]
    have hrest := ih fun b hb => h b (List.mem_cons_of_mem a hb)
    exact (h a List.mem_cons_self).bind fun b hb => hrest.bind fun bs hbs => .pure (.cons hb hbs)

end Only

end Build

namespace Plan

open Build Stage

/-- The plan binds no other variables than these and those that the source binds. -/
def StaysIn (P : Store → Prop) (c : Scope) (V : Set Variable) (p : Plan) : Prop :=
  ∀ W, V ⊆ W → ∀ source, Stage.Only P (BindsIn W) source → Build.Only P (Stage.Only P (BindsIn W)) (p c source)

variable {p q : Plan} {tests : List Plan}

/-- More variables may be allowed. -/
theorem StaysIn.mono (hV : V ⊆ W) (h : StaysIn P c V p) : StaysIn P c W p := fun U hU => h U (hV.trans hU)

/-- What is run at once keeps the invariant, even if it cannot be built. -/
theorem only_now {Q : Solution → Prop} {b : Build (Flow Solution)} (h : Build.Only P (Stage.Only P Q) b) (hst : P st) :
    Stage.Only P Q (now b st).1 ∧ P (now b st).2 := by
  have hb := h st hst
  unfold now
  rcases hrun : b.run st with ⟨e | stage, t⟩
  · rw [hrun] at hb
    exact ⟨.fail e, hb.1⟩
  · rw [hrun] at hb
    exact ⟨hb.2, hb.1⟩

/-- What is built later keeps the invariant, even if it cannot be built. -/
theorem only_later {Q : Solution → Prop} {b : Build (Flow Solution)} (h : Build.Only P (Stage.Only P Q) b) :
    Stage.Only P Q (later b) := .act fun _ hst => only_now h hst

/-- Trying to build a plan keeps the invariant. -/
theorem StaysIn.validate (h : StaysIn P c V p) : Build.Only P (fun _ => True) (validate p c) :=
  (h V subset_rfl .done .done).bind fun _ _ => .pure trivial

/-- Building the tests for a row keeps it, and each of them binds what it may. -/
theorem only_forEach (h : ∀ p ∈ tests, StaysIn P c V p) (hV : V ⊆ W) {s : Solution} (hs : s.BindsIn W) (hst : P st) :
    (∀ f ∈ (forEach c s tests st).1, Stage.Only P (BindsIn W) f) ∧ P (forEach c s tests st).2 := by
  induction tests generalizing st with
  | nil => exact ⟨nofun, hst⟩
  | cons p ps ih =>
    obtain ⟨hp, hps⟩ := List.forall_mem_cons.1 h
    obtain ⟨hf, ht⟩ := only_now (hp W hV _ (.ofList (.cons hs .nil))) hst
    obtain ⟨hfs, hu⟩ := ih hps ht
    rw [forEach_cons]
    exact ⟨List.forall_mem_cons.2 ⟨hf, hfs⟩, hu⟩

/-! ## Expressions -/

/-- Answering tests keeps the invariant, whatever they bind. -/
theorem only_answers {Q : Solution → Prop} {fs : List (Flow Solution)} (h : ∀ f ∈ fs, Stage.Only P Q f) (hst : P st) :
    P (answers fs st).2 := by
  induction fs generalizing st with
  | nil => exact hst
  | cons f fs ih =>
    obtain ⟨hf, hfs⟩ := List.forall_mem_cons.1 h
    have hends := hf.runs st hst
    unfold answers
    rcases hc : f.collect st with ⟨e | ss, t⟩
    · rw [hc] at hends
      exact hends.1
    · rw [hc] at hends
      have hrest := ih hfs hends.1
      dsimp only
      rcases ha : answers fs t with ⟨e | as, u⟩
      · rw [ha] at hrest
        exact hrest
      · rw [ha] at hrest
        exact hrest

/-- The row of a tested solution. -/
abbrev RowIn (W : Set Variable) {α : Type} (x : Solution × α) : Prop := x.1.BindsIn W

section Tests

variable (ht : ∀ p ∈ tests, StaysIn P c Set.univ p)
include ht

/-- The patterns that are tested may bind anything. Only whether they have a solution is seen. -/
theorem only_test {s : Solution} (hs : s.BindsIn W) : Stage.Only P (RowIn W) (test c tests s) := by
  refine .act fun st hst => ?_
  obtain ⟨hfs, hu⟩ := only_forEach ht subset_rfl s.bindsIn_univ hst
  have hlimit : ∀ f ∈ (forEach c s tests st).1.map (c.engine.limit 1), Stage.Only P (BindsIn Set.univ) f :=
    List.forall_mem_map.2 fun f hf => c.engine.only_limit 1 (hfs f hf)
  have hanswers := only_answers hlimit hu
  dsimp only
  rcases ha : answers ((forEach c s tests st).1.map (c.engine.limit 1)) (forEach c s tests st).2 with ⟨e | as, t⟩
  · rw [ha] at hanswers
    exact ⟨.fail e, hanswers⟩
  · rw [ha] at hanswers
    exact ⟨.ofList (.cons hs .nil), hanswers⟩

/-- Testing all rows keeps them with their answers. -/
theorem only_testAll (hs : Stage.Only P (BindsIn W) source) :
    Build.Only P (Stage.Only P (RowIn W)) (testAll c tests source) := by
  unfold testAll
  split
  · exact .pure (c.engine.only_map (fun _ hs => hs) hs)
  · refine (Build.Only.forM fun p hp => (ht p hp).validate).bind fun _ _ => ?_
    exact .pure (c.engine.only_mergeMap (fun s hs => only_test ht hs) hs)

end Tests

/-- Evaluating rows keeps what they bind. -/
theorem only_mapRows {α : Type} (hP : AllowsPlans P) (g : Engine) (draws : Nat) (k : Row → α)
    {tested : Flow (Solution × List Bool)} (hs : Stage.Only P (RowIn W) tested) :
    Stage.Only P (RowIn W) (mapRows g draws k tested) := by
  unfold mapRows
  split
  · exact g.only_map (fun _ hs => hs) hs
  · exact g.only_mapWithState (fun _ st hs hst => ⟨hs, hP.reseed st _ hst⟩) hs

/-- Compiling an expression keeps the invariant. -/
theorem only_compile (c : Scope) (e : Expression) : Build.Only P (fun _ => True) (compile c e) := by
  unfold compile
  split
  · exact .pure trivial
  · exact .throw _

section Expressions

variable (hP : AllowsPlans P) (ht : ∀ p ∈ tests, StaysIn P c Set.univ p)
include hP ht

/-- A filter binds no more than its source. -/
theorem only_applyFilter (e : Expression.Ready) (hs : Stage.Only P (BindsIn W) source) :
    Build.Only P (Stage.Only P (BindsIn W)) (applyFilter c e tests source) := by
  refine (only_testAll ht hs).bind fun tested htested => .pure ?_
  refine c.engine.only_filterMap (fun x hx s hs => ?_) (only_mapRows hP _ _ _ htested)
  dsimp only at hs
  split at hs
  · rw [← Option.some.inj hs]
    exact hx
  · cases hs

omit hP ht in

/-- A filter by whether something exists binds no more than its source. -/
theorem only_existsFilter (hp : StaysIn P c Set.univ p) (negated : Bool) (hs : Stage.Only P (BindsIn W) source) :
    Build.Only P (Stage.Only P (BindsIn W)) (existsFilter c p negated source) := by
  refine hp.validate.bind fun _ _ => .pure ?_
  refine c.engine.only_mergeMap (fun s hs => ?_) hs
  have hfound := only_later (hp Set.univ subset_rfl _ (.ofList (.cons s.bindsIn_univ .nil)))
  refine c.engine.only_filterMap (fun _ _ u hu => ?_) (c.engine.only_gather (c.engine.only_limit 1 hfound))
  split at hu
  · rw [← Option.some.inj hu]
    exact hs
  · cases hu

/-- The plan of a filter binds what its pattern binds. -/
theorem StaysIn.filter (e : Expression) (hp : StaysIn P c V p) : StaysIn P c V (filter e tests p) := by
  intro W hV source hs
  refine (hp W hV source hs).bind fun stage hstage => ?_
  split
  · exact only_existsFilter (ht _ List.mem_cons_self) false hstage
  · exact only_existsFilter (ht _ List.mem_cons_self) true hstage
  · exact (only_compile c e).bind fun r _ => only_applyFilter hP ht r hstage

omit hP ht in
/-- A value binds the variable or changes nothing. -/
theorem eq_or_eq_insert_of_mem_bindValue {s u : Solution} {v : Variable} {x : Option Value} (hu : u ∈ bindValue s v x) :
    u = s ∨ ∃ t, u = s.insert v t := by
  have hterm : ∀ t u, bindCompatible s v t = some u → u = s ∨ ∃ t, u = s.insert v t := by
    intro t u hu
    unfold bindCompatible at hu
    split at hu
    · split at hu
      · exact .inl (Option.some.inj hu).symm
      · cases hu
    · exact .inr ⟨t, (Option.some.inj hu).symm⟩
  unfold bindValue at hu
  split at hu
  · exact .inl (List.mem_singleton.1 hu)
  · exact hterm _ u (Option.mem_toList.1 hu)
  · exact .inl (List.mem_singleton.1 hu)
  · obtain ⟨t, -, ht⟩ := List.mem_filterMap.1 hu
    exact hterm t u ht

omit hP ht in

/-- Binding a value to a variable adds no other variable. -/
theorem bindsIn_bindValue {s u : Solution} {v : Variable} (hs : s.BindsIn W) (hv : v ∈ W) (x : Option Value)
    (hu : u ∈ bindValue s v x) : u.BindsIn W := by
  rcases eq_or_eq_insert_of_mem_bindValue hu with rfl | ⟨t, rfl⟩
  · exact hs
  · exact hs.insert hv

/-- An extension adds its variable. -/
theorem only_applyExtend {v : Variable} (hv : v ∈ W) (e : Expression) (hs : Stage.Only P (BindsIn W) source) :
    Build.Only P (Stage.Only P (BindsIn W)) (applyExtend c v e tests source) := by
  refine (only_compile c e).bind fun r _ => (only_testAll ht hs).bind fun tested htested => .pure ?_
  refine c.engine.only_mergeMap (fun x hx => .ofList fun u hu => ?_) (only_mapRows hP _ _ _ htested)
  exact bindsIn_bindValue hx hv x.2 hu

/-- The plan of an extension binds what its pattern binds, and its variable. -/
theorem StaysIn.extend (v : Variable) (e : Expression) (hp : StaysIn P c V p) :
    StaysIn P c (insert v V) (extend v e tests p) := by
  intro W hV source hs
  obtain ⟨hv, hV⟩ := Set.insert_subset_iff.1 hV
  exact (hp W hV source hs).bind fun stage hstage => only_applyExtend hP ht hv e hstage

omit ht

/-- An order binds what its pattern binds. -/
theorem StaysIn.orderBy (keys : List SortKey) (hp : StaysIn P c V p) : StaysIn P c V (orderBy keys p) := by
  intro W hV source hs
  refine (hp W hV source hs).bind fun stage hstage => ?_
  have hkeys : Build.Only P (Stage.Each fun _ => True) (keys.mapM (compileKey c)) := by
    refine .mapM fun key _ => ?_
    cases key <;> exact (only_compile c _).bind fun _ _ => .pure trivial
  refine hkeys.bind fun ready _ => .pure ?_
  refine c.engine.only_rearrange (fun rows hrows => ?_)
    (only_mapRows hP _ _ _ (c.engine.only_map (fun _ hs => hs) hstage))
  refine List.forall_mem_map.2 fun x hx => hrows x ?_
  exact List.mem_mergeSort.1 hx

end Expressions

/-! ## Combinations of patterns -/

/-- A join binds what both parts bind. -/
theorem StaysIn.join (hp : StaysIn P c V p) (hq : StaysIn P c V q) : StaysIn P c V (join p q) :=
  fun W hV source hs => (hp W hV source hs).bind fun stage hstage => hq W hV stage hstage

/-- The matches of an optional part bind what it binds, also under a condition. -/
theorem only_optionalMatches (hP : AllowsPlans P) {condition : Option (Expression.Ready × List Plan)} (hV : V ⊆ W)
    (hq : StaysIn P c V q) (ht : ∀ e ∈ condition, ∀ p ∈ e.2, StaysIn P c Set.univ p) {s : Solution}
    (hs : s.BindsIn W) : Stage.Only P (BindsIn W) (optionalMatches c q condition s) := by
  refine .act fun st hst => ?_
  obtain ⟨hf, hu⟩ := only_now (hq W hV _ (.ofList (.cons hs .nil))) hst
  cases condition with
  | none => exact ⟨hf, hu⟩
  | some e => exact only_now (only_applyFilter hP (ht e rfl) e.1 hf) hu

/-- An optional part may bind what both parts bind. -/
theorem StaysIn.leftJoin (hP : AllowsPlans P) {condition : Option (Expression × List Plan)} (hp : StaysIn P c V p)
    (hq : StaysIn P c V q) (ht : ∀ e ∈ condition, ∀ p ∈ e.2, StaysIn P c Set.univ p) :
    StaysIn P c V (leftJoin p q condition) := by
  intro W hV source hs
  refine (hp W hV source hs).bind fun left hleft => hq.validate.bind fun _ _ => ?_
  have hstage : ∀ ready : Option (Expression.Ready × List Plan),
      (∀ e ∈ ready, ∀ p ∈ e.2, StaysIn P c Set.univ p) →
      Stage.Only P (BindsIn W)
        (c.engine.mergeMap (fun s => c.engine.defaultIfEmpty s (optionalMatches c q ready s)) left) :=
    fun ready hready => c.engine.only_mergeMap
      (fun s hs => c.engine.only_defaultIfEmpty hs (only_optionalMatches hP hV hq hready hs)) hleft
  cases condition with
  | none => exact .pure (hstage none nofun)
  | some e =>
    have hready : Build.Only P (fun ready => ∀ e ∈ ready, ∀ p ∈ e.2, StaysIn P c Set.univ p)
        ((some e).mapM fun x : Expression × List Plan => do return (← compile c x.1, x.2)) := by
      have hcompiled : Build.Only P (fun x => x.2 = e.2) (do return (← compile c e.1, e.2)) :=
        (only_compile c e.1).bind fun _ _ => .pure rfl
      refine hcompiled.bind fun x hx => .pure ?_
      rintro _ ⟨⟩ p hp
      exact ht e rfl p (hx ▸ hp)
    exact hready.bind fun ready h => .pure (hstage ready h)

/-- A union binds what its parts bind. -/
theorem StaysIn.union (hp : StaysIn P c V p) (hq : StaysIn P c V q) : StaysIn P c V (union p q) := by
  intro W hV source hs
  refine hp.validate.bind fun _ _ => hq.validate.bind fun _ _ => .pure ?_
  refine c.engine.only_mergeMap (fun s hs => .act fun st hst => ?_) hs
  have hboth : ∀ r ∈ [p, q], StaysIn P c V r := List.forall_mem_cons.2 ⟨hp, List.forall_mem_singleton.2 hq⟩
  obtain ⟨hfs, hu⟩ := only_forEach hboth hV hs hst
  exact ⟨c.engine.only_merge hfs, hu⟩

/-- The right side of a difference may bind anything. -/
theorem StaysIn.minus (hp : StaysIn P c V p) (hq : StaysIn P c Set.univ q) : StaysIn P c V (minus p q) := by
  intro W hV source hs
  refine (hp W hV source hs).bind fun left hleft => ?_
  refine (hq Set.univ subset_rfl _ (.ofList (.cons bindsIn_empty .nil))).bind fun right hright => .pure ?_
  exact c.engine.only_mergeMap (fun _ _ => c.engine.only_filter _ hleft) (c.engine.only_gather hright)

/-- Merging with the rows of a table binds the variables of the table. -/
theorem only_merge_table {table : List Solution} (htable : Each (BindsIn W) table)
    (hs : Stage.Only P (BindsIn W) source) :
    Stage.Only P (BindsIn W) (c.engine.mergeMap (fun s => .ofList (table.filterMap s.merge?)) source) :=
  c.engine.only_mergeMap (fun _ hs => .ofList (htable.filterMap fun _ hm _ hu => hs.merge? hm hu)) hs

/-- A table binds its variables. -/
theorem staysIn_values (vs : List Variable) (rows : List (List (Option Term))) :
    StaysIn P c {v | v ∈ vs} (values vs rows) := by
  intro W hV source hs
  refine .pure (only_merge_table (List.forall_mem_map.2 fun row _ v hv => ?_) hs)
  exact hV (Pattern.binds_rowSolution hv)

/-- What is projected away may bind anything. -/
theorem StaysIn.project (vs : List Variable) (hp : StaysIn P c Set.univ p) :
    StaysIn P c {v | v ∈ vs} (project vs p) := by
  intro W hV source hs
  refine (hp Set.univ subset_rfl _ (.ofList (.cons bindsIn_empty .nil))).bind fun stage hstage => .pure ?_
  have hprojected := c.engine.only_gather (c.engine.only_map (fun s _ => s.bindsIn_project hV) hstage)
  exact c.engine.only_mergeMap (fun table htable => only_merge_table htable hs) hprojected

/-- Distinct rows bind what all rows bind. -/
theorem StaysIn.distinct (hp : StaysIn P c V p) : StaysIn P c V (distinct p) :=
  fun W hV source hs => (hp W hV source hs).bind fun _ hstage => .pure (c.engine.only_distinct _ hstage)

/-- A slice binds what its pattern binds. -/
theorem StaysIn.slice (start : Nat) (length : Option Nat) (hp : StaysIn P c V p) :
    StaysIn P c V (slice start length p) := by
  intro W hV source hs
  refine (hp W hV source hs).bind fun stage hstage => .pure ?_
  have hskip : Stage.Only P (BindsIn W) (if start > 0 then c.engine.skip start stage else stage) := by
    split
    · exact c.engine.only_skip start hstage
    · exact hstage
  cases length with
  | none => exact hskip
  | some n => exact c.engine.only_limit n hskip

/-! ## Groups -/

/-- Binding values to variables adds no others. -/
theorem bindsIn_bindAll {s : Solution} {values : List (Variable × Option Term)} (hs : s.BindsIn W)
    (hvalues : ∀ x ∈ values, x.1 ∈ W) : (Group.bindAll s values).BindsIn W := by
  unfold Group.bindAll
  induction values generalizing s with
  | nil => exact hs
  | cons x values ih =>
    obtain ⟨v, t⟩ := x
    obtain ⟨hv, hrest⟩ := List.forall_mem_cons.1 hvalues
    cases t with
    | none => exact ih hs hrest
    | some t => exact ih (hs.insert hv) hrest

/-- The values of aggregates are bound to their variables. -/
theorem fst_mem_of_aggregates {seed : Nat} {g : Group} {as : List (Variable × ReadyAggregate)}
    {values : List (Variable × Option Term)} (h : g.aggregates seed as = .ok values) :
    ∀ x ∈ values, x.1 ∈ as.map (·.1) := by
  induction as generalizing seed values with
  | nil =>
    obtain rfl : [] = values := Except.ok.inj h
    exact nofun
  | cons a as ih =>
    rw [Group.aggregates] at h
    split at h
    · cases h
    · rename_i t _
      obtain ⟨rest, hrest, hvalues⟩ := exists_of_bind_eq_ok h
      rw [← Except.ok.inj hvalues, List.forall_mem_cons]
      exact ⟨List.mem_map_of_mem List.mem_cons_self, fun x hx => List.mem_cons_of_mem _ (ih hrest x hx)⟩

/-- The row of a group binds its keys and aggregates. -/
theorem bindsIn_evaluate {vs : List Variable} {as : List (Variable × ReadyAggregate)} {seed : Nat} {g : Group}
    {s : Solution} (hvs : ∀ v ∈ vs, v ∈ W) (has : ∀ v ∈ as.map (·.1), v ∈ W)
    (h : g.evaluate vs [] as seed = .ok s) : s.BindsIn W := by
  obtain ⟨values, hvalues, hs⟩ := exists_of_bind_eq_ok h
  rw [← Except.ok.inj hs]
  have hkeys : (g.solution vs).BindsIn W := fun v hv => hvs v (Pattern.binds_rowSolution hv)
  exact (bindsIn_bindAll hkeys fun x hx => has x.1 (fst_mem_of_aggregates hvalues x hx)).filter _

/-- What has been grouped may bind anything, but of it only the keys and the aggregates are seen. -/
theorem StaysIn.group (hP : AllowsPlans P) (vs : List Variable) (as : List (Variable × Aggregate))
    (hp : StaysIn P c Set.univ p) : StaysIn P c {v | v ∈ vs ++ as.map (·.1)} (group vs as p) := by
  intro W hV source hs
  have hvs : ∀ v ∈ vs, v ∈ W := fun v hv => hV (List.mem_append_left _ hv)
  have hanything : Stage.Only P (BindsIn Set.univ) source := hs.mono fun s _ => s.bindsIn_univ
  refine (hp Set.univ subset_rfl source hanything).bind fun stage hstage => ?_
  refine Build.Only.bind (Build.Only.mapM (R := fun r => r.1 ∈ as.map (·.1)) fun a ha => ?_) fun rs hrs => ?_
  · dsimp only
    split
    · exact .pure (List.mem_map_of_mem ha)
    · exact .throw _
  have has : ∀ v ∈ rs.map (·.1), v ∈ W :=
    List.forall_mem_map.2 fun r hr => hV (List.mem_append_right _ (hrs r hr))
  rw [bindKeys_vars]
  refine Build.Only.bind (Q := fun x => x = (stage, vs, [])) (.pure rfl) fun x hx => ?_
  obtain rfl := hx
  have hgroups := c.engine.only_rearrange (R := fun _ : Group => True) (f := Group.ofRows vs)
    (fun _ _ _ _ => trivial) hstage
  dsimp only
  split
  · exact .pure (c.engine.only_tryMap (fun g _ s hs => bindsIn_evaluate hvs has hs) hgroups)
  · refine .pure (c.engine.only_filterMapWithState (fun g st _ hst => ?_) hgroups)
    cases hs : g.evaluate vs [] rs st.seed with
    | error e => exact ⟨hP.reseed st _ hst, trivial⟩
    | ok s =>
      refine ⟨hP.reseed st _ hst, ?_⟩
      rintro _ ⟨⟩
      exact bindsIn_evaluate hvs has hs

/-! ## Other graphs -/

/-- Building a pattern in each of some graphs keeps the invariant, and the rows bind the variable for the graph. -/
theorem only_inEachGraph {v : Variable} (hv : v ∈ W) {iris : List Iri}
    (hp : ∀ iri ∈ iris, StaysIn P (c.withActive (.named iri)) V p) (hV : V ⊆ W) {rows : List Solution}
    (hrows : Each (BindsIn W) rows) (hst : P st) :
    (∀ f ∈ (inEachGraph c v p rows iris st).1, Stage.Only P (BindsIn W) f) ∧
      P (inEachGraph c v p rows iris st).2 := by
  induction iris generalizing st with
  | nil => exact ⟨nofun, hst⟩
  | cons iri iris ih =>
    obtain ⟨hfirst, hrest⟩ := List.forall_mem_cons.1 hp
    have hnamed : Each (BindsIn W) (rows.filterMap fun s => s.merge? (Solution.empty.insert v (.iri iri))) :=
      hrows.filterMap fun s hs u hu => hs.merge? (bindsIn_empty.insert hv) hu
    obtain ⟨hf, ht⟩ := only_now (hfirst W hV _ (.ofList hnamed)) hst
    obtain ⟨hfs, hu⟩ := ih hrest ht
    exact ⟨List.forall_mem_cons.2 ⟨hf, hfs⟩, hu⟩

/-- Going through all graphs adds no variable but that. -/
theorem only_fanOut {v : Variable} (hv : v ∈ W) (hp : ∀ iri, StaysIn P (c.withActive (.named iri)) V p) (hV : V ⊆ W)
    (hs : Stage.Only P (BindsIn W) source) : Stage.Only P (BindsIn W) (fanOut c v p source) := by
  refine c.engine.only_mergeMap (fun rows hrows => .act fun st hst => ?_) (c.engine.only_gather hs)
  obtain ⟨hfs, hu⟩ := only_inEachGraph hv (fun iri _ => hp iri) hV hrows hst
  exact ⟨c.engine.only_merge hfs, hu⟩

/-- A graph of a given name binds only what its pattern does. -/
theorem StaysIn.graph_iri {iri : Iri} (hp : StaysIn P (c.withActive (.named iri)) V p) :
    StaysIn P c V (graph (.iri iri) p) := by
  intro W hV source hs
  refine Build.Only.get.bind fun st _ => ?_
  split
  · exact hp W hV source hs
  · exact .throw _

/-- A graph that is not given binds its variable. -/
theorem StaysIn.graph_var {v : Variable} (hv : v ∈ V) (hbound : StaysIn P (c.withActive (.bound v)) V p)
    (hp : ∀ iri, StaysIn P (c.withActive (.named iri)) V p) : StaysIn P c V (graph (.var v) p) := by
  intro W hV source hs
  refine hbound.validate.bind fun _ _ => .pure (c.engine.only_peek (fun first rest hrest => ?_) hs)
  split
  · exact only_later (hbound W hV rest hrest)
  · exact only_fanOut (hV hv) hp hV hrest

/-- Creating the graph of a service keeps the invariant where plans are allowed to create one. -/
theorem only_endpoint (hP : AllowsPlans P) {iri : Iri} (hp : StaysIn P (c.withActive (.named iri)) V p) (hV : V ⊆ W)
    (hs : Stage.Only P (BindsIn W) source) : Build.Only P (Stage.Only P (BindsIn W)) (endpoint c iri p source) := by
  refine Build.Only.get.bind fun st hst => ?_
  split
  · rename_i d hd
    exact (Build.Only.set (hP.create st iri d hd hst)).bind fun _ _ => hp W hV source hs
  · exact hp W hV source hs

/-- Ending at the first failure adds nothing. -/
theorem only_silence {Q : Solution → Prop} (g : Engine) {stage : Flow Solution} (h : Stage.Only P Q stage) :
    Stage.Only P Q (silence g stage) := g.only_recover (fun _ => .done) h

/-- A service of a given name binds what its pattern binds. -/
theorem StaysIn.service_iri (hP : AllowsPlans P) {iri : Iri} (silent : Bool)
    (hp : StaysIn P (c.withActive (.named iri)) V p) : StaysIn P c V (service (.iri iri) p silent) := by
  intro W hV source hs
  have hendpoint := only_endpoint hP hp hV hs
  cases silent with
  | false => exact hendpoint
  | true =>
    refine Build.Only.get.bind fun st hst => ?_
    have hrun := hendpoint st hst
    rcases he : (endpoint c iri p source).run st with ⟨e | stage, t⟩
    · rw [he] at hrun
      exact (Build.Only.set hrun.1).bind fun _ _ => .pure .done
    · rw [he] at hrun
      exact (Build.Only.set hrun.1).bind fun _ _ => .pure (only_silence _ hrun.2)

/-- A service that the rows name binds what its pattern binds. -/
theorem StaysIn.service_var (hP : AllowsPlans P) (v : Variable) (silent : Bool)
    (hp : ∀ iri, StaysIn P (c.withActive (.named iri)) V p) : StaysIn P c V (service (.var v) p silent) := by
  intro W hV source hs
  have hstage : Stage.Only P (BindsIn W) (c.engine.mergeMap (atService c v p) source) := by
    refine c.engine.only_mergeMap (fun s hs => ?_) hs
    unfold atService
    split
    · rename_i iri _
      exact only_later (only_endpoint hP (hp iri) hV (.ofList (.cons hs .nil)))
    · exact .fail _
  refine .pure ?_
  split
  · exact only_silence _ hstage
  · exact hstage

end Plan

end SparqlAlgebra

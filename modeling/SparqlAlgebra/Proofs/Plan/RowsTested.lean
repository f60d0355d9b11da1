import SparqlAlgebra.Proofs.Algebra.Steady
import SparqlAlgebra.Proofs.Plan.Rows

/-!
# Plans that evaluate expressions deliver the rows of their patterns

Filters, optional joins, extensions and sorting look at a row at a time, and a test for solutions only at whether
there is one. So they deliver the rows of their patterns as well, unless an expression draws values.
-/

namespace SparqlAlgebra

open Solution Stage Join

variable {P : Store → Prop} {mayFail : Prop} {c : Scope} {st : Store} {source : Flow Solution} {V : Multiset Solution}
  {Q R S : Solution → Prop}

/-- What is given may be weakened. -/
theorem Build.Gives.mono {α : Type} {Q R : α → Prop} {b : Build α} (h : Build.Gives mayFail st Q b)
    (hQ : ∀ a, Q a → R a) : Build.Gives mayFail st R b := by
  unfold Gives at h ⊢
  rcases hb : b.run st with ⟨e | a, t⟩
  · rw [hb] at h
    exact h
  · rw [hb] at h
    exact ⟨h.1, hQ a h.2⟩

/-- Constructions for each item give a list with one result for each. -/
theorem Build.Gives.mapM {α β : Type} {Q : α → β → Prop} {as : List α} {f : α → Build β}
    (h : ∀ a ∈ as, Build.Gives mayFail st (Q a) (f a)) :
    Build.Gives mayFail st (fun bs => List.Forall₂ Q as bs) (as.mapM f) := by
  induction as with
  | nil => exact .pure .nil
  | cons a as ih =>
    rw [List.mapM_cons]
    have hrest := ih fun x hx => h x (List.mem_cons_of_mem a hx)
    refine (h a List.mem_cons_self).bind fun b hb => hrest.bind fun bs hbs => .pure (.cons hb hbs)

namespace Plan

open Build

variable {a b p : Plan} {A B F : Rows} {tests : List Plan} {Ts : List Rows} {e : Expression}
  {r : Expression.Ready}

/-- An expression is compiled to something that draws no values; that it cannot be compiled is allowed or excluded. -/
structure Compiles (mayFail : Prop) (c : Scope) (e : Expression) : Prop where
  /-- A failure to compile is allowed for. -/
  failure : ∀ x, e.ready c.compiler = .error x → mayFail
  /-- Once compiled, the expression draws no values. -/
  draws : ∀ r, e.ready c.compiler = .ok r → r.draws = 0

/-- Compiling gives what is ready. -/
theorem gives_compile (h : Compiles mayFail c e) :
    Gives mayFail st (fun r => e.ready c.compiler = .ok r) (compile c e) := by
  unfold compile
  split
  · rename_i r hr
    exact .pure hr
  · rename_i x hx
    exact .throw x (h.failure x hx)

/-- Looking for a first solution of each stage tells which bags are not empty. -/
theorem ends_answers {fs : List (Flow Solution)} {Vs : List (Multiset Solution)} (g : Engine)
    (h : List.Forall₂ (Within P mayFail) fs Vs) (hst : P st) :
    Ends P mayFail (fun as => as = Vs.map fun V => decide (V ≠ 0)) (answers (fs.map (g.limit 1)) st) := by
  induction h generalizing st with
  | nil => exact ⟨hst, rfl⟩
  | @cons f V fs Vs hf _ ih =>
    have hfirst := g.runs_limit hf st hst
    rw [List.map_cons, List.map_cons, answers]
    rcases hc : (g.limit 1 f).collect st with ⟨x | ss, t⟩
    · rw [hc] at hfirst
      exact hfirst
    · rw [hc] at hfirst
      have hrest := ih hfirst.1
      dsimp only
      rcases ha : answers (fs.map (g.limit 1)) t with ⟨x | as, u⟩
      · rw [ha] at hrest
        exact hrest
      · rw [ha] at hrest
        refine ⟨hrest.1, ?_⟩
        have hss : (!ss.isEmpty) = decide (V ≠ 0) := by
          rw [hfirst.2.isEmpty_eq, decide_not]
        rw [hrest.2, hss]

/-- Testing a row gives it with the answers of the tests. -/
theorem within_test (h : List.Forall₂ (MeansOn Q P mayFail c) tests Ts) {s : Solution} (hs : Q s) :
    Within P mayFail (test c tests s) {(s, Rows.answers Ts s)} := by
  refine .act fun st hst => ?_
  obtain ⟨hstore, hfs⟩ := within_forEach h hs hst
  have hends := ends_answers c.engine hfs hst
  dsimp only
  rw [hstore]
  rcases ha : answers ((forEach c s tests st).1.map (c.engine.limit 1)) st with ⟨x | as, t⟩
  · rw [ha] at hends
    exact ⟨.failed x _ hends.2, hends.1⟩
  · rw [ha, List.map_map] at hends
    refine ⟨?_, hends.1⟩
    dsimp only
    rw [hends.2]
    exact .ofList [_]

/-- Each row comes with the answers to its tests. -/
theorem gives_testAll (h : List.Forall₂ (MeansOn Q P mayFail c) tests Ts) (hV : ∀ s ∈ V, Q s)
    (hs : Within P mayFail source V) (hst : P st) :
    Gives mayFail st
      (fun tested => Within P mayFail tested (V.map fun s => (s, Rows.answers Ts s)))
      (testAll c tests source) := by
  unfold testAll
  split
  · rename_i hn
    obtain rfl := List.isEmpty_iff.1 hn
    cases h
    exact .pure (c.engine.within_map (fun s => (s, [])) hs)
  · have hvalid : ∀ p ∈ tests, Gives mayFail st (fun _ => True) (validate p c) := by
      intro p hp
      obtain ⟨i, hi, rfl⟩ := List.getElem_of_mem hp
      have hlen : i < Ts.length := h.length_eq ▸ hi
      exact ((List.forall₂_iff_get.1 h).2 i hi hlen).validate hst
    refine (Gives.forM hvalid).bind fun _ _ => .pure ?_
    rw [← Multiset.bind_singleton]
    exact c.engine.within_mergeMap (fun s hs => within_test h (hV s hs)) hs

/-- Evaluating tested rows evaluates each with its answers. -/
theorem within_mapRows {α : Type} {tested : Flow (Solution × List Bool)}
    {W : Multiset (Solution × List Bool)} (g : Engine) (f : Row → α) (h : Within P mayFail tested W) :
    Within P mayFail (mapRows g 0 f tested) (W.map fun x => (x.1, f ⟨x.1, x.2, 0⟩)) :=
  g.within_map _ h

/-! ## Filters -/

/-- A filter keeps the rows that its expression accepts. -/
theorem gives_applyFilter (h : List.Forall₂ (MeansOn Q P mayFail c) tests Ts) (hr : e.ready c.compiler = .ok r)
    (hd : r.draws = 0) (hV : ∀ s ∈ V, Q s) (hs : Within P mayFail source V) (hst : P st) :
    Gives mayFail st
      (fun stage => Within P mayFail stage (Rows.select c.compiler e Ts V))
      (applyFilter c r tests source) := by
  refine (gives_testAll h hV hs hst).bind fun tested htested => .pure ?_
  rw [hd]
  have hmap := within_mapRows c.engine (fun r' => r.root.truth? r' == some true) htested
  have hfilter := c.engine.within_filterMap (fun x : Solution × Bool => if x.2 then some x.1 else none) hmap
  refine cast (congrArg _ ?_) hfilter
  rw [Multiset.map_map, Multiset.filterMap_map, Rows.select, ← Multiset.filterMap_eq_filter]
  congr 1
  funext s
  simp [Rows.isTrue, hr, Option.guard, Except.toOption]

/-- What is kept by a test is a filter. -/
theorem bind_ite_some {α : Type} (q : α → Prop) [DecidablePred q] (V : Multiset α) :
    (V.bind fun x => Multiset.ofList (if q x then some x else none).toList) = V.filter q := by
  induction V using Multiset.induction with
  | empty => rfl
  | cons x V ih =>
    rw [Multiset.cons_bind, ih]
    by_cases hx : q x <;> simp [hx]

/-- A filter by whether something exists keeps the rows for which it does, or for which it does not. -/
theorem gives_existsFilter (h : MeansOn Q P mayFail c p F) (negated : Bool) (hV : ∀ s ∈ V, Q s)
    (hs : Within P mayFail source V) (hst : P st) :
    Gives mayFail st
      (fun stage => Within P mayFail stage (V.filter fun s => decide (F {s} = 0) = negated))
      (existsFilter c p negated source) := by
  refine (h.validate hst).bind fun _ _ => .pure ?_
  rw [← bind_ite_some]
  refine c.engine.within_mergeMap (fun s hs => ?_) hs
  have hlater : Within P mayFail (later (p c (.ofList [s]))) (F {s}) :=
    within_later fun st hst => h.single (hV s hs) hst
  refine c.engine.within_filterMap_once (fun found hfound => ?_) (c.engine.once_gather_limit hlater)
  rw [hfound.isEmpty_eq]
  simp

/-- The plan of a filter means the rows of its pattern that its expression accepts. -/
theorem means_filter (h : List.Forall₂ (MeansOn R P mayFail c) tests Ts) (hp : MeansOn Q P mayFail c p F)
    (hF : Keeps Q R F) (he : Compiles mayFail c e) :
    MeansOn Q P mayFail c (filter e tests p) fun V => Rows.filter c.compiler e Ts (F V) := by
  intro source V hV hs st hst
  refine (hp source V hV hs st hst).bind fun stage hstage => ?_
  split
  · obtain ⟨T, hq, rfl⟩ : ∃ T, MeansOn R P mayFail c _ T ∧ Ts = [T] := by
      cases h with
      | cons hq hnil =>
        cases hnil
        exact ⟨_, hq, rfl⟩
    refine (gives_existsFilter hq false (hF V hV) hstage hst).mono fun stage hstage => ?_
    simpa [Rows.filter] using hstage
  · obtain ⟨T, hq, rfl⟩ : ∃ T, MeansOn R P mayFail c _ T ∧ Ts = [T] := by
      cases h with
      | cons hq hnil =>
        cases hnil
        exact ⟨_, hq, rfl⟩
    refine (gives_existsFilter hq true (hF V hV) hstage hst).mono fun stage hstage => ?_
    simpa [Rows.filter] using hstage
  · rename_i hpos hneg
    have hselect : Rows.filter c.compiler e Ts = Rows.select c.compiler e Ts := by
      unfold Rows.filter
      split
      · cases h with
        | cons _ hnil =>
          cases hnil
          exact (hpos _ _ rfl rfl).elim
      · cases h with
        | cons _ hnil =>
          cases hnil
          exact (hneg _ _ rfl rfl).elim
      · rfl
    rw [hselect]
    exact (gives_compile he).bind fun r hr => gives_applyFilter h hr (he.draws r hr) (hF V hV) hstage hst

/-! ## Optional joins -/

/-- Each row with its matches, or alone if it has none. -/
theorem within_leftJoin {C : Rows} {left : Flow Solution} {f : Solution → Flow Solution}
    (hf : ∀ s ∈ A V, Within P mayFail (f s) (C (B {s})))
    (hleft : Within P mayFail left (A V)) :
    Within P mayFail (c.engine.mergeMap (fun s => c.engine.defaultIfEmpty s (f s)) left)
      (Rows.leftJoin A B C V) :=
  c.engine.within_mergeMap (fun s hs => c.engine.within_defaultIfEmpty s (hf s hs)) hleft

/-- An optional part without a condition means the rows that it extends, and those it has nothing for. -/
theorem means_leftJoin_none (ha : MeansOn Q P mayFail c a A) (hA : Keeps Q R A) (hb : MeansOn R P mayFail c b B) :
    MeansOn Q P mayFail c (leftJoin a b none) (Rows.leftJoin A B id) := by
  intro source V hV hs st hst
  refine (ha source V hV hs st hst).bind fun left hleft => (hb.validate hst).bind fun _ _ => ?_
  refine .pure (within_leftJoin (fun s hs => .act fun t ht => ?_) hleft)
  obtain ⟨hfound, ht'⟩ := within_now (hb.single (hA V hV s hs) ht)
  dsimp only
  rw [ht']
  exact ⟨hfound, ht⟩

/-- With a condition those count that the expression accepts. -/
theorem means_leftJoin_some (ha : MeansOn Q P mayFail c a A) (hA : Keeps Q R A) (hb : MeansOn R P mayFail c b B)
    (hB : Keeps R S B) (h : List.Forall₂ (MeansOn S P mayFail c) tests Ts) (he : Compiles mayFail c e) :
    MeansOn Q P mayFail c (leftJoin a b (some (e, tests))) (Rows.leftJoin A B (Rows.select c.compiler e Ts)) := by
  intro source V hV hs st hst
  refine (ha source V hV hs st hst).bind fun left hleft => (hb.validate hst).bind fun _ _ => ?_
  have hcompile : Gives mayFail st (fun x => ∃ r, x = some (r, tests) ∧ e.ready c.compiler = .ok r)
      ((some (e, tests)).mapM fun x : Expression × List Plan => do return (← compile c x.1, x.2)) := by
    refine Gives.bind (Q := fun x => x.2 = tests ∧ e.ready c.compiler = .ok x.1) ?_ fun x hx => ?_
    · exact (gives_compile he).bind fun r hr => .pure ⟨rfl, hr⟩
    · exact .pure ⟨x.1, by rw [← hx.1], hx.2⟩
  refine hcompile.bind fun x hx => ?_
  obtain ⟨r, rfl, hr⟩ := hx
  refine .pure (within_leftJoin (fun s hs => .act fun t ht => ?_) hleft)
  have hs : R s := hA V hV s hs
  obtain ⟨hfound, ht'⟩ := within_now (hb.single hs ht)
  dsimp only
  rw [ht']
  have hmatches : ∀ t ∈ B {s}, S t := hB {s} (forall_mem_singleton_bag hs)
  obtain ⟨hkept, hu⟩ := within_now (gives_applyFilter h hr (he.draws r hr) hmatches hfound ht)
  rw [hu]
  exact ⟨hkept, ht⟩

/-! ## Extensions and sorting -/

/-- An extension binds the value of its expression, where it has one. -/
theorem gives_applyExtend (h : List.Forall₂ (MeansOn Q P mayFail c) tests Ts) (v : Variable)
    (he : Compiles mayFail c e) (hV : ∀ s ∈ V, Q s)
    (hs : Within P mayFail source V) (hst : P st) :
    Gives mayFail st
      (fun stage => Within P mayFail stage
        (V.bind fun s => ↑(bindValue s v (Rows.value? c.compiler e Ts s))))
      (applyExtend c v e tests source) := by
  refine (gives_compile he).bind fun r hr => (gives_testAll h hV hs hst).bind fun tested htested => .pure ?_
  rw [he.draws r hr]
  have hmap := within_mapRows c.engine (fun r' => r.root.value? r') htested
  have hbind := c.engine.within_mergeMap (f := fun x : Solution × Option Value => .ofList (bindValue x.1 v x.2))
    (fun x _ => .ofList _) hmap
  refine cast (congrArg _ ?_) hbind
  rw [Multiset.map_map, Multiset.bind_map]
  simp [Rows.value?, hr, Except.toOption]

/-- The plan of an extension means the rows of its pattern with the value of the expression. -/
theorem means_extend (v : Variable) (h : List.Forall₂ (MeansOn R P mayFail c) tests Ts)
    (hp : MeansOn Q P mayFail c p F) (hF : Keeps Q R F) (he : Compiles mayFail c e) :
    MeansOn Q P mayFail c (extend v e tests p) (Rows.extend c.compiler v e Ts F) :=
  fun source V hV hs st hst =>
    (hp source V hV hs st hst).bind fun _ hstage => gives_applyExtend h v he (hF V hV) hstage hst

/-- Compiling a key of an order gives what is ready. -/
theorem gives_compileKey {key : SortKey} (h : Compiles mayFail c key.expression) :
    Gives mayFail st (fun k => key.expression.ready c.compiler = .ok k.1) (compileKey c key) := by
  cases key with
  | ascending e => exact (gives_compile h).bind fun r hr => .pure hr
  | descending e => exact (gives_compile h).bind fun r hr => .pure hr

/-- Sorting keeps the rows. -/
theorem means_orderBy {keys : List SortKey} (hp : MeansOn Q P mayFail c p F)
    (he : ∀ key ∈ keys, Compiles mayFail c key.expression) :
    MeansOn Q P mayFail c (orderBy keys p) F := by
  intro source V hV hs st hst
  refine (hp source V hV hs st hst).bind fun stage hstage => ?_
  have hkeys : Gives mayFail st (fun ks => List.Forall₂ (fun key k => key.expression.ready c.compiler = .ok k.1) keys ks)
      (keys.mapM (compileKey c)) :=
    Gives.mapM fun key hkey => gives_compileKey (he key hkey)
  refine hkeys.bind fun ks hks => ?_
  have hdraws : ks.foldl (fun n k => n + k.1.draws) 0 = 0 := by
    clear hkeys
    induction hks with
    | nil => rfl
    | cons hk _ ih =>
      rw [List.foldl_cons, (he _ List.mem_cons_self).draws _ hk]
      exact ih fun key hkey => he key (List.mem_cons_of_mem _ hkey)
  rw [hdraws]
  refine .pure (c.engine.within_rearrange (fun rows hrows => ?_)
    (within_mapRows c.engine (keyValues ks) (c.engine.within_map (fun s => (s, [])) hstage)))
  have hperm : (sortRows ks rows : Multiset Solution) = (rows.map (·.1) : List Solution) :=
    Multiset.coe_eq_coe.2 ((List.mergeSort_perm ..).map _)
  rw [Holds, hperm, ← Multiset.map_coe, hrows]
  simp

end Plan

end SparqlAlgebra

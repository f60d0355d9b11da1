import SparqlAlgebra.Proofs.Plan.KnownRows
import SparqlAlgebra.Proofs.Plan.OrderFree
import SparqlAlgebra.Proofs.Plan.Refusal
import SparqlAlgebra.Proofs.Plan.SourceRows

/-!
# Plans in scopes with the same graphs

In which order, and how often, the graphs of a union or those that can be seen are named does not matter to what is
found for a row. So there is one function for all scopes with the same graphs, and the plan of a pattern turns the rows
of a source into those of this function, as long as it is known of every variable that names a graph whether the rows
bind it, and nothing disturbs the stores.
-/

namespace SparqlAlgebra

open Solution Stage Join

variable {P : Store → Prop} {c e : Scope} {d : Dataset} {k : Known} {listed early : Bool}

/-! ## Scopes with the same graphs -/

/-- The same graphs are active, whatever the order of a union is and how often it has a graph. -/
def ActiveGraph.SameGraphs : ActiveGraph → ActiveGraph → Prop
  | .union iris, .union others => ∀ iri, iri ∈ iris ↔ iri ∈ others
  | a, b => a = b

/-- An active graph stands for the same graphs as itself. -/
theorem ActiveGraph.SameGraphs.refl (a : ActiveGraph) : a.SameGraphs a := by
  cases a with
  | union iris => exact fun _ => .rfl
  | default | named | bound => rfl

/-- What is harmless creates no graph. -/
theorem Touch.Harmless.createsNone {x : Touch} (h : x.Harmless P c d) : x.CreatesNone d := by
  cases x with
  | lookup a qs => trivial
  | create iri => exact h
  | anywhere => exact h

namespace Scope

/-- A graph that can be seen is there. -/
theorem hasNamed_of_canSee {iri : Iri} (h : c.canSee d iri = true) : d.hasNamed iri = true :=
  (Bool.and_eq_true_iff.1 h).2

/-- The same functions can be called, the same graphs are active and the same ones can be seen. Where all graphs are
gone through, the list of them is the same up to its order. -/
structure SameGraphs (listed : Bool) (d : Dataset) (c e : Scope) : Prop where
  /-- The same functions can be called. -/
  compiler : c.compiler = e.compiler
  /-- The active graphs are the same. -/
  active : c.active.SameGraphs e.active
  /-- The same graphs can be seen. -/
  canSee : c.canSee d = e.canSee d
  /-- Where all graphs are gone through, they are listed alike up to their order. -/
  namedGraphs : listed = true → (c.namedGraphs d).Perm (e.namedGraphs d)

namespace SameGraphs

/-- In a graph inside the pattern the same graphs are chosen. -/
theorem withActive (h : SameGraphs listed d c e) (a : ActiveGraph) :
    SameGraphs listed d (c.withActive a) (e.withActive a) := ⟨h.compiler, .refl a, h.canSee, h.namedGraphs⟩

/-- What is found for a row depends only on which triples there are. -/
theorem find (h : SameGraphs listed d c e) (hbound : ∀ v, c.active = .bound v → listed = true)
    {f : GraphRef → Solution → Multiset Solution}
    (hf : ∀ r r' : GraphRef, (∀ t, t ∈ r.triples d ↔ t ∈ r'.triples d) → f r = f r') (s : Solution) :
    c.find d f s c.active = e.find d f s e.active := by
  have hactive := h.active
  cases hc : c.active with
  | union iris =>
    cases he : e.active with
    | union others =>
      rw [hc, he] at hactive
      refine congrFun (hf _ _ fun t => ?_) s
      rw [GraphRef.triples, GraphRef.triples, GraphRef.leaves_union_named, GraphRef.leaves_union_named]
      simp only [List.mem_flatMap, List.mem_map, List.mem_filter]
      have hiff : ∀ iri, iri ∈ iris ↔ iri ∈ others := hactive
      simp only [hiff]
    | default | named | bound =>
      rw [hc, he] at hactive
      cases hactive
  | default | named iri =>
    rw [hc] at hactive
    rw [← show _ = e.active from hactive]
    rfl
  | bound v =>
    rw [hc] at hactive
    rw [← show _ = e.active from hactive, Scope.find, Scope.find, h.canSee,
      Multiset.coe_eq_coe.2 (h.namedGraphs (hbound v hc))]

end SameGraphs

/-- The active graph is there, and what a plan touches is harmless. Among it is what it touches in the active graph. -/
structure Undisturbed (P : Store → Prop) (d : Dataset) (e : Scope) (a : ActiveGraph) (xs : List Touch) : Prop where
  /-- The stores have the dataset. -/
  dataset : ∀ s, P s → s.dataset = d
  /-- A batch can be counted in 64 bits. -/
  batch : e.settings.hints.batchSize < 2 ^ 64
  /-- The active graph can be resolved. -/
  resolves : e.Resolves d
  /-- The active graph of the touches covers that of the scope. -/
  covers : ∀ r, e.Shows d r e.active → e.Shows d r a
  /-- No touch tells the stores apart or changes them. -/
  harmless : ∀ x ∈ xs, x.Harmless P e d

namespace Undisturbed

variable {a : ActiveGraph} {xs ys : List Touch}

/-- Less is as undisturbed as more. -/
theorem mono (h : Undisturbed P d e a xs) (hys : ys ⊆ xs) : Undisturbed P d e a ys :=
  { h with harmless := fun x hx => h.harmless x (hys hx) }

/-- The first part of what is touched is undisturbed. -/
theorem left (h : Undisturbed P d e a (xs ++ ys)) : Undisturbed P d e a xs := h.mono (List.subset_append_left xs ys)

/-- The second part of what is touched is undisturbed. -/
theorem right (h : Undisturbed P d e a (xs ++ ys)) : Undisturbed P d e a ys := h.mono (List.subset_append_right xs ys)

/-- What comes after an undisturbed first touch is undisturbed. -/
theorem tail {x : Touch} (h : Undisturbed P d e a (x :: xs)) : Undisturbed P d e a xs :=
  h.mono (List.subset_cons_self x xs)

/-- In a graph inside the pattern a plan is as undisturbed, as long as that graph is there. -/
theorem withActive (h : Undisturbed P d e a xs) (b : ActiveGraph) (hb : (e.withActive b).Resolves d) :
    Undisturbed P d (e.withActive b) b xs :=
  ⟨h.dataset, h.batch, hb, fun _ hr => hr, fun x hx => (h.harmless x hx).withActive b⟩

/-- What is touched in the graph that a row names may be touched in any graph that can be seen. -/
theorem named (h : Undisturbed P d e a xs) (v : Variable) {iri : Iri} (hsee : e.canSee d iri = true) :
    Undisturbed P d (e.withActive (.named iri)) (.bound v) xs :=
  ⟨h.dataset, h.batch, e.resolves_named (hasNamed_of_canSee hsee), fun _ hr => ⟨iri, hsee, hr.2⟩,
    fun x hx => (h.harmless x hx).withActive (.named iri)⟩

/-- So it can be read off a pattern whether its plan is built. -/
theorem decided_plan {p : Pattern} (h : Undisturbed P d e a (p.touches a)) {st : Store} (hst : P st)
    (source : Flow Solution) :
    Build.Decided (p.builds e.compiler (e.canSee d)) st (p.plan e source) := by
  obtain rfl := h.dataset st hst
  exact p.decided_plan e a (fun x hx => (h.harmless x hx).createsNone) h.resolves source

end Undisturbed

end Scope

/-! ## Graphs that a variable or a service names -/

/-- The rows in the graphs that a variable names. If all rows name one, they are looked up together, and else all
graphs are gone through. Without rows there is nothing to tell the two apart. -/
def Rows.inGraphs (v : Variable) (named : Bool) (iris : Multiset Iri) (B : Rows) (N : Iri → Rows) : Rows := fun V =>
  if V ≠ 0 ∧ named = true then B V
  else iris.bind fun iri => N iri (Solution.join V {Solution.empty.insert v (.iri iri)})

/-- What is known of the rows is known inside a graph whose name they bind. -/
theorem Known.Holds.within {v : Variable} {s : Solution} (h : k.Holds s) (hv : s.binds v = true) :
    (k.within v).Holds s where
  always _ hw := (List.mem_cons.1 hw).elim (fun hw => hw ▸ hv) (h.always _)
  ever w hw := by
    refine .inl (List.mem_append.2 ((h.ever w hw).symm.imp_left fun hw => ?_))
    rw [hw]
    exact List.mem_singleton_self w

namespace Plan

open Build

variable {mayFail : Prop} {p : Plan} {v : Variable} {B F : Rows} {N : Iri → Rows} {Q : Solution → Prop}

/-- Whichever row comes first, the graphs are looked up if all rows name one, and else gone through. -/
theorem means_graph_var (hP : ∀ s, P s → s.dataset = d) (hv : k.settles v = true)
    (hB : MeansOn (k.within v).Holds P mayFail (c.withActive (.bound v)) p B)
    (hN : ∀ iri, c.canSee d iri = true → MeansOn (k.within v).Holds P mayFail (c.withActive (.named iri)) p (N iri)) :
    MeansOn k.Holds P mayFail c (graph (.var v) p)
      (Rows.inGraphs v (k.always.contains v) (c.namedGraphs d) B N) := by
  intro source V hV hs st hst
  have hfan : ∀ whole, Within P mayFail whole V → Within P mayFail (fanOut c v p whole)
      ((c.namedGraphs d : Multiset Iri).bind fun iri => N iri (Solution.join V {Solution.empty.insert v (.iri iri)})) :=
    fun whole hwhole => within_fanOut hP hN (fun iri => Pattern.keeps_named v iri V hV) hwhole
  refine (hB.validate hst).bind fun _ _ =>
    .pure (c.engine.within_peek (fun hempty => ?_) (fun s hs whole hwhole => ?_) hs)
  · have hnone : Rows.inGraphs v (k.always.contains v) (c.namedGraphs d) B N V = _ := if_neg fun h => h.1 hempty
    rw [hnone]
    exact hfan .done (by rw [hempty]; exact .done)
  · have hfirst : ((some s).map (·.binds v)).getD false = k.always.contains v := (hV s hs).binds_eq hv
    have hrows : V ≠ 0 := fun h => Multiset.notMem_zero s (h ▸ hs)
    rw [hfirst]
    split
    · rename_i halways
      rw [Rows.inGraphs, if_pos ⟨hrows, halways⟩]
      have hin : ∀ t ∈ V, (k.within v).Holds t := fun t ht =>
        (hV t ht).within ((hV t ht).always v (List.contains_iff_mem.1 halways))
      exact within_later fun st hst => hB whole V hin hwhole st hst
    · rename_i halways
      rw [Rows.inGraphs, if_neg fun h => halways h.2]
      exact hfan whole hwhole

/-- Going through graphs leaves what is known after the pattern, and every row binds the name of its graph. -/
theorem keeps_inGraphs {inner : Pattern} (iris : Multiset Iri)
    (hB : Keeps (k.within v).Holds (inner.after (k.within v)).Holds B)
    (hN : ∀ iri, Keeps (k.within v).Holds (inner.after (k.within v)).Holds (N iri)) :
    Keeps k.Holds ((Pattern.graph (.var v) inner).after k).Holds
      (Rows.inGraphs v (k.always.contains v) iris B N) := by
  refine Pattern.keeps_graph_var fun V hV s hs => ?_
  unfold Rows.inGraphs at hs
  split at hs
  · rename_i hbound
    refine hB V (fun t ht => ?_) s hs
    exact (hV t ht).within ((hV t ht).always v (List.contains_iff_mem.1 hbound.2))
  · obtain ⟨iri, -, hs⟩ := Multiset.mem_bind.1 hs
    exact hN iri _ (Pattern.keeps_named v iri V hV) s hs

/-- A service whose graph is there is a graph of a given name that can be seen. -/
theorem gives_endpoint {iri : Iri} (hP : ∀ s, P s → s.dataset = d) (hthere : d.hasNamed iri = true)
    (hp : MeansOn Q P mayFail (c.withActive (.named iri)) p F) {source : Flow Solution} {V : Multiset Solution}
    (hV : ∀ s ∈ V, Q s) (hs : Within P mayFail source V) {st : Store} (hst : P st) :
    Gives mayFail st (fun stage => Within P mayFail stage (F V)) (endpoint c iri p source) := by
  refine gives_get.bind fun s hstore => ?_
  rw [hstore, hP st hst, Dataset.create_of_hasNamed hthere]
  exact hp source V hV hs st hst

/-- A service whose graph is there means what its pattern means in this graph. -/
theorem means_service {iri : Iri} (hP : ∀ s, P s → s.dataset = d) (hthere : d.hasNamed iri = true)
    (hp : MeansOn Q P mayFail (c.withActive (.named iri)) p F) : MeansOn Q P mayFail c (service (.iri iri) p false) F :=
  fun _ _ hV hs _ hst => gives_endpoint hP hthere hp hV hs hst

/-- A silent service differs from others only if something fails, also in what is handed to it. -/
theorem means_service_silent {iri : Iri} (hP : ∀ s, P s → s.dataset = d) (hthere : d.hasNamed iri = true)
    (hno : ¬ mayFail) (hp : MeansOn Q P mayFail (c.withActive (.named iri)) p F) :
    MeansOn Q P mayFail c (service (.iri iri) p true) F := by
  intro source V hV hs st hst
  have hstage := gives_endpoint hP hthere hp hV hs hst
  refine gives_get.bind fun s hstore => ?_
  rw [hstore]
  unfold Gives at hstage
  rcases hrun : (endpoint c iri p source).run st with ⟨x | stage, t⟩
  · rw [hrun] at hstage
    exact absurd hstage.2 hno
  · rw [hrun] at hstage
    obtain ⟨rfl, hstage⟩ := hstage
    exact ⟨rfl, c.engine.within_recover _ hno hstage⟩

/-- Where the plan of a silent service is refused there are no rows. -/
theorem means_service_refused {iri : Iri} (hP : ∀ s, P s → s.dataset = d) (hthere : d.hasNamed iri = true)
    (hp : ∀ st, P st → ∀ source, Decided false st (p (c.withActive (.named iri)) source)) :
    MeansOn Q P mayFail c (service (.iri iri) p true) fun _ => 0 := by
  intro source V _ _ st hst
  have hstage := decided_endpoint source ((hP st hst).symm ▸ hthere) (hp st hst)
  obtain ⟨x, hx⟩ := hstage.exists_of_false
  refine gives_get.bind fun s hstore => ?_
  rw [hstore]
  dsimp only
  rw [hx]
  exact ⟨rfl, .done⟩

end Plan

/-! ## One function for all scopes with the same graphs -/

/-- In every scope with the same graphs a pattern turns known rows into the rows of a function, if nothing disturbs it.
Where failures are early, none is left for the evaluation. -/
def Pattern.MeansAlike (listed early : Bool) (d : Dataset) (k : Known) (c : Scope) (p : Pattern) (F : Rows) : Prop :=
  ∀ (P : Store → Prop) (e : Scope) (a : ActiveGraph), Scope.SameGraphs listed d c e →
    e.Undisturbed P d a (p.touches a) → Plan.MeansOn k.Holds P (early = false) e p.plan F

/-- This holds of the patterns whose existence an expression tests. -/
def Expression.TestAlike (listed early : Bool) (d : Dataset) (k : Known) (c : Scope) (x : Expression)
    (Ts : List Rows) : Prop :=
  ∀ (P : Store → Prop) (e : Scope) (a : ActiveGraph), Scope.SameGraphs listed d c e →
    e.Undisturbed P d a (x.touches a) → List.Forall₂ (Plan.MeansOn k.Holds P (early = false) e) x.tests Ts

/-- Without tests there is nothing to show. -/
theorem Expression.TestAlike.of_tests_eq_nil {x : Expression} (h : x.tests = []) :
    x.TestAlike listed early d k c [] := by
  intro P e a _ _
  rw [h]
  exact .nil

/-- This holds of the patterns whose existence some expressions test. -/
def Expression.AllTestAlike (listed early : Bool) (d : Dataset) (k : Known) (c : Scope) (xs : List Expression)
    (Ts : List Rows) : Prop :=
  ∀ (P : Store → Prop) (e : Scope) (a : ActiveGraph), Scope.SameGraphs listed d c e →
    e.Undisturbed P d a (Expression.touchesOfAll a xs) →
    List.Forall₂ (Plan.MeansOn k.Holds P (early = false) e) (Expression.testsOfAll xs) Ts

/-- The variable of the active graph is known, and all graphs are gone through where rows do not name one. -/
def Scope.IsKnown (k : Known) (listed : Bool) (c : Scope) : Prop :=
  ∀ v, c.active = .bound v → k.enclosing = some v ∧ listed = true

/-- What is refused is refused early. -/
theorem late_of_refused {b : Bool} (h : early = true → b = true) (hb : b = false) : early = false :=
  Bool.eq_false_iff.2 fun he => Bool.eq_false_iff.1 hb (h he)

/-- If nothing fails early, a failure is late. -/
theorem late_of_error {α : Type} {r : Except QueryError α} (h : early = true → r.isOk = true) (x : QueryError)
    (hr : r = .error x) : early = false :=
  late_of_refused h (by rw [hr]; rfl)

/-- A steady expression that can be compiled, at least where failures are early, does so without draws. -/
theorem Plan.compiles_of_ready {x : Expression} (h : x.isSteady = true)
    (hready : early = true → (x.ready c.compiler).isOk = true) : Plan.Compiles (early = false) c x :=
  ⟨late_of_error hready, fun _ hr => (Expression.ready_steady h hr).1⟩

/-- An aggregate that can be compiled there is folded in any order. -/
theorem Plan.folds_of_ready {a : Aggregate} (h : a.isOrderless early = true)
    (hready : early = true → (a.ready c.compiler).isOk = true) : Plan.Folds (early = false) c a where
  failure := late_of_error hready
  orderFree r hr := by
    cases a with
    | countRows distinct => exact Aggregate.ready_isOrderFree rfl hr
    | apply f distinct e =>
      cases f with
      | count => exact Aggregate.ready_isOrderFree (a := .apply .count distinct e) (Bool.and_eq_true_iff.1 h).2 hr
      | min => exact Aggregate.ready_isOrderFree (a := .apply .min distinct e) h hr
      | max => exact Aggregate.ready_isOrderFree (a := .apply .max distinct e) h hr
      | custom name => cases hr
      | _ => cases h
  result r hr seed g hnone := by
    cases a with
    | countRows distinct => simpa [Aggregate.isOrderless] using h
    | apply f distinct e =>
      obtain ⟨x, -, rfl⟩ := Aggregate.exists_of_ready_apply hr
      cases f with
      | count => simpa using (Bool.and_eq_true_iff.1 h).1
      | min | max => exact absurd hnone (Accumulator.ofList_ne_none rfl _)
      | custom name => cases hr
      | _ => cases h

/-! ## The constructors of patterns -/

namespace Pattern

variable {a b inner : Pattern} {x : Expression} {v : Variable} {iri : Iri}

/-- There is one function for all scopes with the same graphs, and it hands on what is known. -/
def HasRows (listed early : Bool) (d : Dataset) (k : Known) (c : Scope) (p : Pattern) : Prop :=
  ∃ F, Plan.Keeps k.Holds (p.after k).Holds F ∧ p.MeansAlike listed early d k c F

/-- A pattern that is refused has no rows. -/
theorem hasRows_bgp_of_error {ps : List TriplePattern} {e : QueryError}
    (hplan : SearchPlan.ofPatterns (ps.map HiddenVariable.replace) = .error e) (hlate : early = false) :
    (Pattern.bgp ps).HasRows listed early d k c := by
  refine ⟨fun _ => 0, fun _ _ s hs => absurd hs (Multiset.notMem_zero s), fun P e a _ _ source V _ _ st _ => ?_⟩
  rw [Pattern.plan, Plan.bgp, hplan]
  exact .throw _ hlate

/-- What is matched and searched for depends on the triples only, if the searches do not number their hits. -/
theorem hasRows_bgp_of_ok {ps : List TriplePattern} {plan : SearchPlan}
    (hplan : SearchPlan.ofPatterns (ps.map HiddenVariable.replace) = .ok plan)
    (hunranked : SearchPlan.isUnranked ps = true) (hc : c.IsKnown k listed) :
    (Pattern.bgp ps).HasRows listed early d k c := by
  refine ⟨_, Pattern.keeps_bgp (d := d) hplan fun v hv => (hc v hv).1, fun P e a he hu => ?_⟩
  have hactive : ∀ x, e.activeGraph? d = .error x → early = false := fun x hx => absurd hx (hu.resolves x)
  have hanswers : ∀ qs ∈ Plan.lookedUp ps, ∀ r, e.Shows d r e.active → Answered P e.settings d r qs := by
    intro qs hqs r hr
    refine hu.harmless (.lookup a qs) ?_ r (hu.covers r hr)
    rw [Pattern.touches]
    exact List.mem_map_of_mem hqs
  have hmeans := Plan.means_bgp_unranked hu.dataset hactive hplan hunranked hanswers hu.batch
  have hfind : ∀ s, c.find d (plan.rows d) s c.active = e.find d (plan.rows d) s e.active :=
    he.find (fun v hv => (hc v hv).2) fun r r' hr => plan.rows_congr hr
  simp only [hfind]
  rw [Pattern.plan]
  exact hmeans.on

/-- A path leads to the same terms in all graphs with the same triples. -/
theorem hasRows_path (x : Slot) (p : Path) (y : Slot) (hc : c.IsKnown k listed) :
    (Pattern.path x p y).HasRows listed early d k c := by
  refine ⟨_, Pattern.keeps_path (d := d) fun v hv => (hc v hv).1, fun P e a he hu => ?_⟩
  have hfind : ∀ s, c.find d (fun r => r.pathRows d (PathPattern.mk x p y).hide) s c.active =
      e.find d (fun r => r.pathRows d (PathPattern.mk x p y).hide) s e.active :=
    he.find (fun v hv => (hc v hv).2) fun r r' hr => GraphRef.pathRows_congr hr _
  simp only [hfind]
  rw [Pattern.plan]
  exact (Plan.means_path hu.dataset fun x hx => absurd hx (hu.resolves x)).on

/-- The right part of a join continues with the rows of the left one. -/
theorem hasRows_join (ha : a.HasRows listed early d k c) (hb : b.HasRows listed early d (a.after k) c) :
    (Pattern.join a b).HasRows listed early d k c := by
  obtain ⟨A, hA, ha⟩ := ha
  obtain ⟨B, hB, hb⟩ := hb
  refine ⟨_, Pattern.keeps_join hA hB, fun P e g he hu => ?_⟩
  rw [Pattern.touches] at hu
  rw [Pattern.plan]
  exact Plan.means_join (ha P e g he hu.left) hA (hb P e g he hu.right)

/-- An optional part without a condition continues with each row of the left part. -/
theorem hasRows_leftJoin_none (ha : a.HasRows listed early d k c) (hb : b.HasRows listed early d (a.after k) c) :
    (Pattern.leftJoin a b none).HasRows listed early d k c := by
  obtain ⟨A, hA, ha⟩ := ha
  obtain ⟨B, hB, hb⟩ := hb
  refine ⟨_, Pattern.keeps_leftJoin none hA hB fun _ _ hs => hs, fun P e g he hu => ?_⟩
  rw [Pattern.touches] at hu
  rw [Pattern.plan]
  exact Plan.means_leftJoin_none (ha P e g he hu.left) hA (hb P e g he hu.right)

/-- The condition of an optional part is tested on the rows of that part. -/
theorem hasRows_leftJoin_some {Ts : List Rows} (ha : a.HasRows listed early d k c)
    (hb : b.HasRows listed early d (a.after k) c) (ht : x.TestAlike listed early d (b.after (a.after k)) c Ts)
    (hsteady : x.isSteady = true) (hready : early = true → (x.ready c.compiler).isOk = true) :
    (Pattern.leftJoin a b (some x)).HasRows listed early d k c := by
  obtain ⟨A, hA, ha⟩ := ha
  obtain ⟨B, hB, hb⟩ := hb
  refine ⟨Rows.leftJoin A B (Rows.select c.compiler x Ts),
    Pattern.keeps_leftJoin (some x) hA hB fun _ _ hs => Multiset.mem_of_mem_filter hs, fun P e g he hu => ?_⟩
  rw [Pattern.touches] at hu
  rw [he.compiler] at hready
  rw [Pattern.plan, he.compiler]
  exact Plan.means_leftJoin_some (ha P e g he hu.left.left) hA (hb P e g he hu.left.right) hB (ht P e g he hu.right)
    (Plan.compiles_of_ready hsteady hready)

/-- A filter leaves rows out. -/
theorem hasRows_filter {Ts : List Rows} (hp : inner.HasRows listed early d k c)
    (ht : x.TestAlike listed early d (inner.after k) c Ts) (hsteady : x.isSteady = true)
    (hready : early = true → (x.ready c.compiler).isOk = true) :
    (Pattern.filter x inner).HasRows listed early d k c := by
  obtain ⟨F, hF, hp⟩ := hp
  refine ⟨fun V => Rows.filter c.compiler x Ts (F V), hF.of_mem fun _ _ => Rows.mem_of_mem_filter,
    fun P e g he hu => ?_⟩
  rw [Pattern.touches] at hu
  rw [he.compiler] at hready
  rw [Pattern.plan, he.compiler]
  exact Plan.means_filter (ht P e g he hu.left) (hp P e g he hu.right) hF (Plan.compiles_of_ready hsteady hready)

/-- Both parts of a union start from the same rows. -/
theorem hasRows_union (ha : a.HasRows listed early d k c) (hb : b.HasRows listed early d k c) :
    (Pattern.union a b).HasRows listed early d k c := by
  obtain ⟨A, hA, ha⟩ := ha
  obtain ⟨B, hB, hb⟩ := hb
  refine ⟨_, Pattern.keeps_union hA hB, fun P e g he hu => ?_⟩
  rw [Pattern.touches] at hu
  rw [Pattern.plan]
  exact Plan.means_union (ha P e g he hu.left) (hb P e g he hu.right)

/-- What is taken away is evaluated from scratch. -/
theorem hasRows_minus (ha : a.HasRows listed early d k c) (hb : b.HasRows listed early d k.fresh c) :
    (Pattern.minus a b).HasRows listed early d k c := by
  obtain ⟨A, hA, ha⟩ := ha
  obtain ⟨B, -, hb⟩ := hb
  refine ⟨Rows.minus A B, hA.of_mem fun _ _ => Multiset.mem_of_mem_filter, fun P e g he hu => ?_⟩
  rw [Pattern.touches] at hu
  rw [Pattern.plan]
  exact Plan.means_minus (ha P e g he hu.left) (hb P e g he hu.right) Known.holds_empty

/-- In a graph of a given name the rows are those of the pattern there. -/
theorem hasRows_graph_iri (hp : inner.HasRows listed early d k (c.withActive (.named iri)))
    (hsees : early = true → c.canSee d iri = true) : (Pattern.graph (.iri iri) inner).HasRows listed early d k c := by
  obtain ⟨F, hF, hp⟩ := hp
  refine ⟨F, hF, fun P e g he hu => ?_⟩
  rw [Pattern.touches] at hu
  rw [he.canSee] at hsees
  rw [Pattern.plan]
  exact Plan.means_graph hu.dataset (late_of_refused hsees) fun hsee =>
    hp P _ _ (he.withActive _) (hu.withActive _ (e.resolves_named (Scope.hasNamed_of_canSee hsee)))

/-- Where a variable names the graph, it is the one that the rows name, or all of them are gone through. -/
theorem hasRows_graph_var (hlisted : listed = true) (hsettled : k.settles v = true)
    (hb : inner.HasRows listed early d (k.within v) (c.withActive (.bound v)))
    (hn : ∀ iri, inner.HasRows listed early d (k.within v) (c.withActive (.named iri))) :
    (Pattern.graph (.var v) inner).HasRows listed early d k c := by
  obtain ⟨B, hB, hb⟩ := hb
  choose N hN hn using hn
  refine ⟨_, Plan.keeps_inGraphs (c.namedGraphs d) hB hN, fun P e g he hu => ?_⟩
  rw [Pattern.touches] at hu
  rw [Pattern.plan, Multiset.coe_eq_coe.2 (he.namedGraphs hlisted)]
  exact Plan.means_graph_var hu.dataset hsettled
    (hb P _ _ (he.withActive _) (hu.withActive _ (e.resolves_bound v d)))
    fun iri hsee => hn iri P _ _ (he.withActive _) (hu.named v hsee)

/-- A value is added to each row for itself. -/
theorem hasRows_extend {Ts : List Rows} (hp : inner.HasRows listed early d k c)
    (ht : x.TestAlike listed early d (inner.after k) c Ts) (hsteady : x.isSteady = true)
    (hready : early = true → (x.ready c.compiler).isOk = true) :
    (Pattern.extend inner v x).HasRows listed early d k c := by
  obtain ⟨F, hF, hp⟩ := hp
  refine ⟨Rows.extend c.compiler v x Ts F, Pattern.keeps_extend v hF, fun P e g he hu => ?_⟩
  rw [Pattern.touches] at hu
  rw [he.compiler] at hready
  rw [Pattern.plan, he.compiler]
  exact Plan.means_extend v (ht P e g he hu.left) (hp P e g he hu.right) hF (Plan.compiles_of_ready hsteady hready)

/-- A table is joined with the rows. -/
theorem hasRows_values (vs : List Variable) (rows : List (List (Option Term))) :
    (Pattern.values vs rows).HasRows listed early d k c := by
  refine ⟨_, Pattern.keeps_values vs rows, fun P e g _ _ => ?_⟩
  rw [Pattern.plan]
  exact (Plan.means_values vs rows).on

/-- Sorting does not change the bag. -/
theorem hasRows_orderBy {keys : List SortKey} (hp : inner.HasRows listed early d k c)
    (hsteady : ∀ key ∈ keys, key.isSteady = true)
    (hready : early = true → ∀ key ∈ keys, (key.expression.ready c.compiler).isOk = true) :
    (Pattern.orderBy inner keys).HasRows listed early d k c := by
  obtain ⟨F, hF, hp⟩ := hp
  refine ⟨F, hF, fun P e g he hu => ?_⟩
  rw [Pattern.touches] at hu
  rw [he.compiler] at hready
  rw [Pattern.plan]
  exact Plan.means_orderBy (hp P e g he hu) fun key hkey =>
    Plan.compiles_of_ready (key.isSteady_expression.trans (hsteady key hkey)) fun hearly => hready hearly key hkey

/-- A projection is evaluated from scratch and joined with the rows. -/
theorem hasRows_project (vs : List Variable) (hp : inner.HasRows listed early d k.fresh c) :
    (Pattern.project inner vs).HasRows listed early d k c := by
  obtain ⟨F, hF, hp⟩ := hp
  refine ⟨_, Pattern.keeps_project vs hF, fun P e g he hu => ?_⟩
  rw [Pattern.touches] at hu
  rw [Pattern.plan]
  exact (Plan.means_project vs (hp P e g he hu) Known.holds_empty).on

/-- Each row is kept once. -/
theorem hasRows_distinct (hp : inner.HasRows listed early d k c) :
    (Pattern.distinct inner).HasRows listed early d k c := by
  obtain ⟨F, hF, hp⟩ := hp
  refine ⟨fun V => (F V).dedup, hF.of_mem fun _ _ => Multiset.mem_dedup.1, fun P e g he hu => ?_⟩
  rw [Pattern.touches] at hu
  rw [Pattern.plan]
  exact Plan.means_distinct (hp P e g he hu)

/-- A pattern may be reduced in the same way. -/
theorem hasRows_reduced (hp : inner.HasRows listed early d k c) : (Pattern.reduced inner).HasRows listed early d k c :=
  hasRows_distinct hp

/-- The rows are grouped by their keys, and no aggregate depends on their order. -/
theorem hasRows_group (vs : List Variable) {as : List (Variable × Aggregate)} (hp : inner.HasRows listed early d k c)
    (horderless : ∀ g ∈ as, g.2.isOrderless early = true)
    (hready : early = true → ∀ g ∈ as, (g.2.ready c.compiler).isOk = true) :
    (Pattern.group inner vs as).HasRows listed early d k c := by
  obtain ⟨F, hF, hp⟩ := hp
  refine ⟨fun V => Rows.group c.compiler vs as (F V), Pattern.keeps_group vs as hF, fun P e g he hu => ?_⟩
  rw [Pattern.touches] at hu
  rw [he.compiler] at hready
  rw [Pattern.plan, he.compiler]
  exact Plan.means_group (hp P e g he hu) fun g hg =>
    Plan.folds_of_ready (horderless g hg) fun hearly => hready hearly g hg

/-- A service whose graph is there has the rows of its pattern in that graph. -/
theorem hasRows_service (hp : inner.HasRows listed early d k (c.withActive (.named iri))) :
    (Pattern.service (.iri iri) inner false).HasRows listed early d k c := by
  obtain ⟨F, hF, hp⟩ := hp
  refine ⟨F, hF, fun P e g he hu => ?_⟩
  rw [Pattern.touches] at hu
  have hthere : d.hasNamed iri = true := hu.harmless (.create iri) List.mem_cons_self
  rw [Pattern.plan]
  exact Plan.means_service hu.dataset hthere
    (hp P _ _ (he.withActive _) (hu.tail.withActive _ (e.resolves_named hthere)))

/-- The same holds of a silent service, if failures are early and the plan is built. -/
theorem hasRows_service_silent (hearly : early = true)
    (hp : inner.HasRows listed early d k (c.withActive (.named iri))) :
    (Pattern.service (.iri iri) inner true).HasRows listed early d k c := by
  obtain ⟨F, hF, hp⟩ := hp
  refine ⟨F, hF, fun P e g he hu => ?_⟩
  rw [Pattern.touches] at hu
  have hthere : d.hasNamed iri = true := hu.harmless (.create iri) List.mem_cons_self
  rw [Pattern.plan]
  exact Plan.means_service_silent hu.dataset hthere (by simp [hearly])
    (hp P _ _ (he.withActive _) (hu.tail.withActive _ (e.resolves_named hthere)))

/-- A silent service whose plan is refused has no rows. -/
theorem hasRows_service_refused (hrefused : inner.builds c.compiler (c.canSee d) = false) :
    (Pattern.service (.iri iri) inner true).HasRows listed early d k c := by
  refine ⟨fun _ => 0, fun _ _ s hs => absurd hs (Multiset.notMem_zero s), fun P e g he hu => ?_⟩
  rw [Pattern.touches] at hu
  have hthere : d.hasNamed iri = true := hu.harmless (.create iri) List.mem_cons_self
  rw [Pattern.plan]
  refine Plan.means_service_refused hu.dataset hthere fun st hst source => ?_
  have hdecided := (hu.tail.withActive (.named iri) (e.resolves_named hthere)).decided_plan hst source
  rw [he.compiler, he.canSee] at hrefused
  exact hrefused ▸ hdecided

end Pattern

/-! ## All patterns -/

mutual

/-- There is such a function for a pattern whose solutions do not depend on an order, unless it is refused. -/
theorem Pattern.exists_meansAlike (listed early : Bool) (d : Dataset) : (p : Pattern) → (k : Known) →
    p.isOrderless listed early k = true → (c : Scope) → c.IsKnown k listed →
    (early = true → p.builds c.compiler (c.canSee d) = true) →
    ∃ F, Plan.Keeps k.Holds (p.after k).Holds F ∧ p.MeansAlike listed early d k c F
  | .bgp ps, k, h, c, hc, hbuilds => by
    rw [Pattern.isOrderless] at h
    rw [Pattern.builds] at hbuilds
    cases hplan : SearchPlan.ofPatterns (ps.map HiddenVariable.replace) with
    | error x => exact Pattern.hasRows_bgp_of_error hplan (late_of_error hbuilds x hplan)
    | ok plan => exact Pattern.hasRows_bgp_of_ok hplan h hc
  | .path x p y, _, _, _, hc, _ => Pattern.hasRows_path x p y hc
  | .join a b, k, h, c, hc, hbuilds => by
    rw [Pattern.isOrderless, Bool.and_eq_true] at h
    rw [Pattern.builds, Bool.and_eq_true, imp_and] at hbuilds
    exact Pattern.hasRows_join (a.exists_meansAlike listed early d k h.1 c hc hbuilds.1)
      (b.exists_meansAlike listed early d (a.after k) h.2 c hc hbuilds.2)
  | .leftJoin a b none, k, h, c, hc, hbuilds => by
    rw [Pattern.isOrderless, Bool.and_eq_true] at h
    rw [Pattern.builds, Bool.and_eq_true, imp_and] at hbuilds
    exact Pattern.hasRows_leftJoin_none (a.exists_meansAlike listed early d k h.1 c hc hbuilds.1)
      (b.exists_meansAlike listed early d (a.after k) h.2 c hc hbuilds.2)
  | .leftJoin a b (some x), k, h, c, hc, hbuilds => by
    simp only [Pattern.isOrderless, Bool.and_eq_true] at h
    obtain ⟨⟨hleft, hright⟩, ⟨hsteady, hnotests⟩, htests⟩ := h
    rw [Pattern.builds, Bool.and_eq_true, Bool.and_eq_true, imp_and, imp_and] at hbuilds
    obtain ⟨hbuildsA, hbuildsB, hready⟩ := hbuilds
    -- The tests of the condition are built for each row, so there must be none if failures are early.
    obtain ⟨Ts, ht⟩ : ∃ Ts, x.TestAlike listed early d (b.after (a.after k)) c Ts := by
      cases early with
      | false => exact x.exists_testAlike listed false d _ htests c hc nofun
      | true => exact ⟨[], .of_tests_eq_nil (by simpa using hnotests)⟩
    exact Pattern.hasRows_leftJoin_some (a.exists_meansAlike listed early d k hleft c hc hbuildsA)
      (b.exists_meansAlike listed early d (a.after k) hright c hc hbuildsB) ht hsteady hready
  | .filter x inner, k, h, c, hc, hbuilds => by
    rw [Pattern.isOrderless, Bool.and_eq_true, Bool.and_eq_true] at h
    rw [Pattern.builds, Bool.and_eq_true, Bool.and_eq_true, imp_and, imp_and] at hbuilds
    obtain ⟨Ts, ht⟩ := x.exists_testAlike listed early d (inner.after k) h.1.2 c hc hbuilds.2.2
    exact Pattern.hasRows_filter (inner.exists_meansAlike listed early d k h.2 c hc hbuilds.1) ht h.1.1 hbuilds.2.1
  | .union a b, k, h, c, hc, hbuilds => by
    rw [Pattern.isOrderless, Bool.and_eq_true] at h
    rw [Pattern.builds, Bool.and_eq_true, imp_and] at hbuilds
    exact Pattern.hasRows_union (a.exists_meansAlike listed early d k h.1 c hc hbuilds.1)
      (b.exists_meansAlike listed early d k h.2 c hc hbuilds.2)
  | .minus a b, k, h, c, hc, hbuilds => by
    rw [Pattern.isOrderless, Bool.and_eq_true] at h
    rw [Pattern.builds, Bool.and_eq_true, imp_and] at hbuilds
    exact Pattern.hasRows_minus (a.exists_meansAlike listed early d k h.1 c hc hbuilds.1)
      (b.exists_meansAlike listed early d k.fresh h.2 c hc hbuilds.2)
  | .graph (.iri iri) inner, k, h, c, _, hbuilds => by
    rw [Pattern.isOrderless] at h
    rw [Pattern.builds, Bool.and_eq_true, imp_and] at hbuilds
    exact Pattern.hasRows_graph_iri
      (inner.exists_meansAlike listed early d k h (c.withActive (.named iri)) nofun hbuilds.2) hbuilds.1
  | .graph (.var v) inner, k, h, c, _, hbuilds => by
    rw [Pattern.isOrderless, Bool.and_eq_true, Bool.and_eq_true] at h
    obtain ⟨⟨hlisted, hsettled⟩, hinner⟩ := h
    rw [Pattern.builds] at hbuilds
    exact Pattern.hasRows_graph_var hlisted hsettled
      (inner.exists_meansAlike listed early d (k.within v) hinner (c.withActive (.bound v))
        (fun w hw => ⟨congrArg some (ActiveGraph.bound.inj hw), hlisted⟩) hbuilds)
      fun iri => inner.exists_meansAlike listed early d (k.within v) hinner (c.withActive (.named iri)) nofun hbuilds
  | .extend inner v x, k, h, c, hc, hbuilds => by
    rw [Pattern.isOrderless, Bool.and_eq_true, Bool.and_eq_true] at h
    rw [Pattern.builds, Bool.and_eq_true, Bool.and_eq_true, imp_and, imp_and] at hbuilds
    obtain ⟨Ts, ht⟩ := x.exists_testAlike listed early d (inner.after k) h.1.2 c hc hbuilds.2.2
    exact Pattern.hasRows_extend (inner.exists_meansAlike listed early d k h.2 c hc hbuilds.1) ht h.1.1 hbuilds.2.1
  | .values vs rows, _, _, _, _, _ => Pattern.hasRows_values vs rows
  | .orderBy inner keys, k, h, c, hc, hbuilds => by
    rw [Pattern.isOrderless, Bool.and_eq_true, List.all_eq_true] at h
    rw [Pattern.builds, Bool.and_eq_true, List.all_eq_true, imp_and] at hbuilds
    exact Pattern.hasRows_orderBy (inner.exists_meansAlike listed early d k h.1 c hc hbuilds.1) h.2 hbuilds.2
  | .project inner vs, k, h, c, hc, hbuilds => by
    rw [Pattern.isOrderless] at h
    rw [Pattern.builds] at hbuilds
    exact Pattern.hasRows_project vs (inner.exists_meansAlike listed early d k.fresh h c hc hbuilds)
  | .distinct inner, k, h, c, hc, hbuilds => by
    rw [Pattern.isOrderless] at h
    rw [Pattern.builds] at hbuilds
    exact Pattern.hasRows_distinct (inner.exists_meansAlike listed early d k h c hc hbuilds)
  | .reduced inner, k, h, c, hc, hbuilds => by
    rw [Pattern.isOrderless] at h
    rw [Pattern.builds] at hbuilds
    exact Pattern.hasRows_reduced (inner.exists_meansAlike listed early d k h c hc hbuilds)
  | .slice inner start length, k, h, _, _, _ => by
    rw [Pattern.isOrderless] at h
    exact absurd h Bool.false_ne_true
  | .group inner vs as, k, h, c, hc, hbuilds => by
    rw [Pattern.isOrderless, Bool.and_eq_true, List.all_eq_true] at h
    rw [Pattern.builds, Bool.and_eq_true, List.all_eq_true, imp_and] at hbuilds
    exact Pattern.hasRows_group vs (inner.exists_meansAlike listed early d k h.1 c hc hbuilds.1) h.2 hbuilds.2
  | .service (.iri iri) inner false, k, h, c, _, hbuilds => by
    rw [Pattern.isOrderless, Bool.and_eq_true] at h
    rw [Pattern.builds] at hbuilds
    exact Pattern.hasRows_service
      (inner.exists_meansAlike listed early d k h.2 (c.withActive (.named iri)) nofun hbuilds)
  | .service (.iri iri) inner true, k, h, c, _, _ => by
    rw [Pattern.isOrderless, Bool.and_eq_true, Bool.not_true, Bool.false_or] at h
    cases hinner : inner.builds c.compiler (c.canSee d) with
    | false => exact Pattern.hasRows_service_refused hinner
    | true =>
      exact Pattern.hasRows_service_silent h.1
        (inner.exists_meansAlike listed early d k h.2 (c.withActive (.named iri)) nofun fun _ => hinner)
  | .service (.var v) inner silent, k, h, _, _, _ => by
    rw [Pattern.isOrderless] at h
    exact absurd h Bool.false_ne_true

/-- There are such functions for the patterns whose existence an expression tests. -/
theorem Expression.exists_testAlike (listed early : Bool) (d : Dataset) : (x : Expression) → (k : Known) →
    x.testsAreOrderless listed early k = true → (c : Scope) → c.IsKnown k listed →
    (early = true → x.testsBuild c.compiler (c.canSee d) = true) → ∃ Ts, x.TestAlike listed early d k c Ts
  | .constant _, _, _, _, _, _ | .var _, _, _, _, _, _ | .isBound _, _, _, _, _, _ => by
    refine ⟨[], fun P e g he hu => ?_⟩
    rw [Expression.tests]
    exact .nil
  | .or x y, k, h, c, hc, hbuilds | .and x y, k, h, c, hc, hbuilds | .equal x y, k, h, c, hc, hbuilds
  | .sameTerm x y, k, h, c, hc, hbuilds | .compare _ x y, k, h, c, hc, hbuilds
  | .arithmetic _ x y, k, h, c, hc, hbuilds => by
    rw [Expression.testsAreOrderless, Bool.and_eq_true] at h
    rw [Expression.testsBuild, Bool.and_eq_true, imp_and] at hbuilds
    obtain ⟨Ts, hx⟩ := x.exists_testAlike listed early d k h.1 c hc hbuilds.1
    obtain ⟨Us, hy⟩ := y.exists_testAlike listed early d k h.2 c hc hbuilds.2
    refine ⟨Ts ++ Us, fun P e g he hu => ?_⟩
    rw [Expression.touches] at hu
    rw [Expression.tests]
    exact List.rel_append (hx P e g he hu.left) (hy P e g he hu.right)
  | .not x, k, h, c, hc, hbuilds | .sign _ x, k, h, c, hc, hbuilds => by
    rw [Expression.testsAreOrderless] at h
    rw [Expression.testsBuild] at hbuilds
    obtain ⟨Ts, hx⟩ := x.exists_testAlike listed early d k h c hc hbuilds
    refine ⟨Ts, fun P e g he hu => ?_⟩
    rw [Expression.touches] at hu
    rw [Expression.tests]
    exact hx P e g he hu
  | .choose x y z, k, h, c, hc, hbuilds => by
    rw [Expression.testsAreOrderless, Bool.and_eq_true, Bool.and_eq_true] at h
    rw [Expression.testsBuild, Bool.and_eq_true, Bool.and_eq_true, imp_and, imp_and] at hbuilds
    obtain ⟨Ts, hx⟩ := x.exists_testAlike listed early d k h.1.1 c hc hbuilds.1.1
    obtain ⟨Us, hy⟩ := y.exists_testAlike listed early d k h.1.2 c hc hbuilds.1.2
    obtain ⟨Vs, hz⟩ := z.exists_testAlike listed early d k h.2 c hc hbuilds.2
    refine ⟨Ts ++ Us ++ Vs, fun P e g he hu => ?_⟩
    rw [Expression.touches] at hu
    rw [Expression.tests]
    exact List.rel_append (List.rel_append (hx P e g he hu.left.left) (hy P e g he hu.left.right))
      (hz P e g he hu.right)
  | .member x ys, k, h, c, hc, hbuilds => by
    rw [Expression.testsAreOrderless, Bool.and_eq_true] at h
    rw [Expression.testsBuild, Bool.and_eq_true, imp_and] at hbuilds
    obtain ⟨Ts, hx⟩ := x.exists_testAlike listed early d k h.1 c hc hbuilds.1
    obtain ⟨Us, hys⟩ := Expression.exists_allTestAlike listed early d ys k h.2 c hc hbuilds.2
    refine ⟨Ts ++ Us, fun P e g he hu => ?_⟩
    rw [Expression.touches] at hu
    rw [Expression.tests]
    exact List.rel_append (hx P e g he hu.left) (hys P e g he hu.right)
  | .coalesce xs, k, h, c, hc, hbuilds | .call _ xs, k, h, c, hc, hbuilds => by
    rw [Expression.testsAreOrderless] at h
    rw [Expression.testsBuild] at hbuilds
    obtain ⟨Ts, hxs⟩ := Expression.exists_allTestAlike listed early d xs k h c hc hbuilds
    refine ⟨Ts, fun P e g he hu => ?_⟩
    rw [Expression.touches] at hu
    rw [Expression.tests]
    exact hxs P e g he hu
  | .hasSolution p, k, h, c, hc, hbuilds => by
    rw [Expression.testsAreOrderless] at h
    rw [Expression.testsBuild] at hbuilds
    obtain ⟨F, -, hp⟩ := p.exists_meansAlike listed early d k h c hc hbuilds
    refine ⟨[F], fun P e g he hu => ?_⟩
    rw [Expression.touches] at hu
    rw [Expression.tests]
    exact .cons (hp P e g he hu) .nil

/-- The tests of several expressions are answered alike in any order. -/
theorem Expression.exists_allTestAlike (listed early : Bool) (d : Dataset) : (xs : List Expression) → (k : Known) →
    Expression.allTestsAreOrderless listed early xs k = true → (c : Scope) → c.IsKnown k listed →
    (early = true → Expression.allTestsBuild c.compiler (c.canSee d) xs = true) →
    ∃ Ts, Expression.AllTestAlike listed early d k c xs Ts
  | [], _, _, _, _, _ => by
    refine ⟨[], fun P e g he hu => ?_⟩
    rw [Expression.testsOfAll]
    exact .nil
  | x :: xs, k, h, c, hc, hbuilds => by
    rw [Expression.allTestsAreOrderless, Bool.and_eq_true] at h
    rw [Expression.allTestsBuild, Bool.and_eq_true, imp_and] at hbuilds
    obtain ⟨Ts, hx⟩ := x.exists_testAlike listed early d k h.1 c hc hbuilds.1
    obtain ⟨Us, hxs⟩ := Expression.exists_allTestAlike listed early d xs k h.2 c hc hbuilds.2
    refine ⟨Ts ++ Us, fun P e g he hu => ?_⟩
    rw [Expression.touchesOfAll] at hu
    rw [Expression.testsOfAll]
    exact List.rel_append (hx P e g he hu.left) (hxs P e g he hu.right)

end

end SparqlAlgebra

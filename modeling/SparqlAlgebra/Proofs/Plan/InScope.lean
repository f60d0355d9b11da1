import SparqlAlgebra.Algebra.Pattern
import SparqlAlgebra.Proofs.Plan.LeafScope

/-!
# Scope safety

Blank nodes, batches of bound joins and graphs that the rows name put variables of their own into the rows that carry
the solutions. None of them leaves a pattern: a row that the stage of a pattern delivers binds only what a source row
binds, what is in scope in the pattern, and the variable of the enclosing graph. Solutions that have been kept may be
used on the way as long as their entries bind the variables of their patterns, and this is what is kept.
-/

namespace SparqlAlgebra

open Solution

/-! ## The basic graph patterns of a pattern -/

mutual

/-- The basic graph patterns that are evaluated for a pattern, also for the tests of its expressions. -/
def Pattern.bgps : Pattern → List (List TriplePattern)
  | .bgp ps => [ps]
  | .path .. | .values .. => []
  | .join a b | .union a b | .minus a b | .leftJoin a b none => a.bgps ++ b.bgps
  | .leftJoin a b (some e) => a.bgps ++ b.bgps ++ e.bgps
  | .filter e inner | .extend inner _ e => e.bgps ++ inner.bgps
  | .graph _ inner | .orderBy inner _ | .project inner _ | .distinct inner | .reduced inner | .slice inner .. |
    .group inner .. | .service _ inner _ => inner.bgps

/-- The basic graph patterns of the tests of an expression. -/
def Expression.bgps : Expression → List (List TriplePattern)
  | .constant _ | .var _ | .isBound _ => []
  | .or a b | .and a b | .equal a b | .sameTerm a b | .compare _ a b | .arithmetic _ a b => a.bgps ++ b.bgps
  | .not a | .sign _ a => a.bgps
  | .choose a b c => a.bgps ++ b.bgps ++ c.bgps
  | .member a es => a.bgps ++ Expression.bgpsOfAll es
  | .coalesce es | .call _ es => Expression.bgpsOfAll es
  | .hasSolution p => p.bgps

/-- Those of the tests of some expressions. -/
def Expression.bgpsOfAll : List Expression → List (List TriplePattern)
  | [] => []
  | e :: es => e.bgps ++ Expression.bgpsOfAll es

end

variable {P : Store → Prop}

/-- Look-ups for these basic graph patterns deliver only solutions that bind their variables. -/
def LooksUpInScope (P : Store → Prop) (k : Settings) (bgps : List (List TriplePattern)) : Prop :=
  ∀ ps ∈ bgps, ∀ qs ∈ Plan.lookedUp ps, Join.StaysInScope P k qs

/-- Look-ups for more patterns stay in scope if those for both parts do. -/
theorem looksUpInScope_append {k : Settings} {xs ys : List (List TriplePattern)} :
    LooksUpInScope P k (xs ++ ys) ↔ LooksUpInScope P k xs ∧ LooksUpInScope P k ys :=
  List.forall_mem_append

/-- The variables in scope in a pattern, together with that of the enclosing graph. -/
def Pattern.scopeIn (p : Pattern) (c : Scope) : Set Variable := {v | v ∈ p.scopeOccurrences} ∪ c.enclosing

/-- More occurrences in scope leave more variables in scope. -/
theorem Pattern.scopeIn_subset {p q : Pattern} {c : Scope} (h : p.scopeOccurrences ⊆ q.scopeOccurrences) :
    p.scopeIn c ⊆ q.scopeIn c := Set.union_subset_union_left _ h

/-- In a graph of a given name no variable is added. -/
theorem Pattern.scopeIn_named (p : Pattern) (c : Scope) (iri : Iri) :
    p.scopeIn (c.withActive (.named iri)) = {v | v ∈ p.scopeOccurrences} := by
  have hnone : (c.withActive (.named iri)).enclosing = ∅ := by
    ext v
    simp [Scope.enclosing, Scope.withActive]
  rw [scopeIn, hnone, Set.union_empty]

/-! ## The constructors of patterns -/

namespace Pattern

variable {c : Scope} {a b inner p : Pattern} {e : Expression} {v : Variable}

/-- The plan of a pattern binds no variables but those in scope, that of the enclosing graph and those of its source. -/
def StaysInScope (P : Store → Prop) (c : Scope) (p : Pattern) : Prop := Plan.StaysIn P c (p.scopeIn c) p.plan

/-- The variables in scope bound what the plan binds. -/
theorem StaysInScope.stays (h : a.StaysInScope P c) : Plan.StaysIn P c (a.scopeIn c) a.plan := h

/-- In a pattern with more variables in scope it binds no others either. -/
theorem StaysInScope.widen (h : a.StaysInScope P c) (hsub : a.scopeOccurrences ⊆ p.scopeOccurrences) :
    Plan.StaysIn P c (p.scopeIn c) a.plan := h.stays.mono (scopeIn_subset hsub)

/-- Nothing at all is said about the variables when every one is allowed. -/
theorem StaysInScope.univ (h : a.StaysInScope P c) : Plan.StaysIn P c Set.univ a.plan :=
  h.stays.mono (Set.subset_univ _)

/-- In a graph of a given name it binds no others than in scope. -/
theorem StaysInScope.named {iri : Iri} {S : Set Variable} (h : inner.StaysInScope P (c.withActive (.named iri)))
    (hsub : {v | v ∈ inner.scopeOccurrences} ⊆ S) : Plan.StaysIn P (c.withActive (.named iri)) S inner.plan := by
  refine h.stays.mono ?_
  rw [scopeIn_named]
  exact hsub

/-- A basic graph pattern binds the variables of its triple patterns. -/
theorem staysInScope_bgp {ps : List TriplePattern} (h : LooksUpInScope P c.settings [ps]) :
    (Pattern.bgp ps).StaysInScope P c := by
  rw [StaysInScope, Pattern.plan]
  refine (Plan.staysIn_bgp (h ps List.mem_cons_self)).mono (Set.union_subset_union_left _ ?_)
  rintro v ⟨p, hp, hv⟩
  refine List.mem_flatMap.2 ⟨p, hp, List.reduceOption_mem_iff.2 ?_⟩
  rw [TriplePattern.mem_vars] at hv
  simpa [eq_comm] using hv

/-- A path binds the variables at its ends. -/
theorem staysInScope_path (x : Slot) (p : Path) (y : Slot) : (Pattern.path x p y).StaysInScope P c := by
  rw [StaysInScope, Pattern.plan]
  refine (Plan.staysIn_path x p y).mono (Set.union_subset_union_left _ fun v hv => ?_)
  refine List.reduceOption_mem_iff.2 ?_
  simpa [eq_comm] using hv

/-- The variables of both parts of a join are in scope. -/
theorem staysInScope_join (ha : a.StaysInScope P c) (hb : b.StaysInScope P c) :
    (Pattern.join a b).StaysInScope P c := by
  rw [StaysInScope, Pattern.plan]
  exact (ha.widen (List.subset_append_left _ _)).join (hb.widen (List.subset_append_right _ _))

/-- An optional part stays in scope if both its parts do and its tests bind what they like. -/
theorem staysInScope_leftJoin (hP : AllowsPlans P) {x : Option Expression} (ha : a.StaysInScope P c)
    (hb : b.StaysInScope P c) (hx : ∀ e, x = some e → ∀ p ∈ e.tests, Plan.StaysIn P c Set.univ p) :
    (Pattern.leftJoin a b x).StaysInScope P c := by
  have ha' : Plan.StaysIn P c ((Pattern.leftJoin a b x).scopeIn c) a.plan :=
    ha.widen (List.subset_append_left _ _)
  have hb' : Plan.StaysIn P c ((Pattern.leftJoin a b x).scopeIn c) b.plan :=
    hb.widen (List.subset_append_right _ _)
  cases x with
  | none =>
    rw [StaysInScope, Pattern.plan]
    exact ha'.leftJoin hP hb' nofun
  | some e =>
    rw [StaysInScope, Pattern.plan]
    refine ha'.leftJoin hP hb' ?_
    rintro _ ⟨⟩
    exact hx e rfl

/-- The variables of both parts of a union are in scope. -/
theorem staysInScope_union (ha : a.StaysInScope P c) (hb : b.StaysInScope P c) :
    (Pattern.union a b).StaysInScope P c := by
  rw [StaysInScope, Pattern.plan]
  exact (ha.widen (List.subset_append_left _ _)).union (hb.widen (List.subset_append_right _ _))

/-- What is taken away binds nothing in the rows that are left. -/
theorem staysInScope_minus (ha : a.StaysInScope P c) (hb : b.StaysInScope P c) :
    (Pattern.minus a b).StaysInScope P c := by
  rw [StaysInScope, Pattern.plan]
  exact ha.stays.minus hb.univ

/-- A graph of a given name adds no variable. -/
theorem staysInScope_graph_iri {iri : Iri} (h : inner.StaysInScope P (c.withActive (.named iri))) :
    (Pattern.graph (.iri iri) inner).StaysInScope P c := by
  rw [StaysInScope, Pattern.plan]
  exact (h.named subset_rfl).graph_iri.mono Set.subset_union_left

/-- A variable that names the graph is in scope. -/
theorem staysInScope_graph_var (hb : inner.StaysInScope P (c.withActive (.bound v)))
    (hn : ∀ iri, inner.StaysInScope P (c.withActive (.named iri))) :
    (Pattern.graph (.var v) inner).StaysInScope P c := by
  rw [StaysInScope, Pattern.plan]
  have hscope : {w | w ∈ inner.scopeOccurrences} ⊆ (Pattern.graph (.var v) inner).scopeIn c :=
    fun w hw => .inl (List.mem_cons_of_mem v hw)
  have hv : v ∈ (Pattern.graph (.var v) inner).scopeIn c := .inl List.mem_cons_self
  refine .graph_var hv ?_ fun iri => (hn iri).named hscope
  refine hb.stays.mono (Set.union_subset hscope fun w hw => ?_)
  rw [← ActiveGraph.bound.inj hw]
  exact hv

/-- A variable that gets a value is in scope. -/
theorem staysInScope_extend (hP : AllowsPlans P) (h : inner.StaysInScope P c)
    (he : ∀ p ∈ e.tests, Plan.StaysIn P c Set.univ p) : (Pattern.extend inner v e).StaysInScope P c := by
  rw [StaysInScope, Pattern.plan]
  refine (h.stays.extend hP he v e).mono ?_
  exact Set.insert_subset (.inl List.mem_cons_self) (scopeIn_subset (List.subset_cons_self v _))

/-- A projection binds the variables that it shows. -/
theorem staysInScope_project (vs : List Variable) (h : inner.StaysInScope P c) :
    (Pattern.project inner vs).StaysInScope P c := by
  rw [StaysInScope, Pattern.plan]
  exact (h.univ.project vs).mono Set.subset_union_left

/-- A group binds its keys and aggregates. -/
theorem staysInScope_group (hP : AllowsPlans P) (vs : List Variable) (as : List (Variable × Aggregate))
    (h : inner.StaysInScope P c) : (Pattern.group inner vs as).StaysInScope P c := by
  rw [StaysInScope, Pattern.plan]
  exact (h.univ.group hP vs as).mono Set.subset_union_left

/-- A service binds the variables of its pattern, and none for its name. -/
theorem staysInScope_service (hP : AllowsPlans P) (name : IriSlot) (silent : Bool)
    (h : ∀ iri, inner.StaysInScope P (c.withActive (.named iri))) :
    (Pattern.service name inner silent).StaysInScope P c := by
  rw [StaysInScope, Pattern.plan]
  cases name with
  | iri iri => exact (((h iri).named subset_rfl).service_iri hP silent).mono Set.subset_union_left
  | var v => exact .service_var hP v silent fun iri => (h iri).named Set.subset_union_left

end Pattern

/-! ## All patterns -/

mutual

/-- The plan of a pattern binds no variables but those in scope, that of the enclosing graph and those of its
source. -/
theorem Pattern.staysIn_plan (hP : AllowsPlans P) : (p : Pattern) → (c : Scope) → LooksUpInScope P c.settings p.bgps →
    Plan.StaysIn P c (p.scopeIn c) p.plan
  | .bgp ps, c, h => by
    rw [Pattern.bgps] at h
    exact Pattern.staysInScope_bgp h
  | .path x p y, c, _ => Pattern.staysInScope_path x p y
  | .join a b, c, h => by
    rw [Pattern.bgps, looksUpInScope_append] at h
    exact Pattern.staysInScope_join (a.staysIn_plan hP c h.1) (b.staysIn_plan hP c h.2)
  | .leftJoin a b none, c, h => by
    rw [Pattern.bgps, looksUpInScope_append] at h
    exact Pattern.staysInScope_leftJoin hP (a.staysIn_plan hP c h.1) (b.staysIn_plan hP c h.2) nofun
  | .leftJoin a b (some e), c, h => by
    rw [Pattern.bgps, looksUpInScope_append, looksUpInScope_append] at h
    refine Pattern.staysInScope_leftJoin hP (a.staysIn_plan hP c h.1.1) (b.staysIn_plan hP c h.1.2) ?_
    rintro _ ⟨⟩
    exact e.staysIn_tests hP c h.2
  | .filter e inner, c, h => by
    rw [Pattern.bgps, looksUpInScope_append] at h
    rw [Pattern.plan]
    exact (inner.staysIn_plan hP c h.2).filter hP (e.staysIn_tests hP c h.1) e
  | .union a b, c, h => by
    rw [Pattern.bgps, looksUpInScope_append] at h
    exact Pattern.staysInScope_union (a.staysIn_plan hP c h.1) (b.staysIn_plan hP c h.2)
  | .minus a b, c, h => by
    rw [Pattern.bgps, looksUpInScope_append] at h
    exact Pattern.staysInScope_minus (a.staysIn_plan hP c h.1) (b.staysIn_plan hP c h.2)
  | .graph (.iri iri) inner, c, h => by
    rw [Pattern.bgps] at h
    exact Pattern.staysInScope_graph_iri (inner.staysIn_plan hP (c.withActive (.named iri)) h)
  | .graph (.var v) inner, c, h => by
    rw [Pattern.bgps] at h
    exact Pattern.staysInScope_graph_var (inner.staysIn_plan hP (c.withActive (.bound v)) h)
      fun iri => inner.staysIn_plan hP (c.withActive (.named iri)) h
  | .extend inner v e, c, h => by
    rw [Pattern.bgps, looksUpInScope_append] at h
    exact Pattern.staysInScope_extend hP (inner.staysIn_plan hP c h.2) (e.staysIn_tests hP c h.1)
  | .values vs rows, c, _ => by
    rw [Pattern.plan]
    exact (Plan.staysIn_values vs rows).mono Set.subset_union_left
  | .orderBy inner keys, c, h => by
    rw [Pattern.bgps] at h
    rw [Pattern.plan]
    exact (inner.staysIn_plan hP c h).orderBy hP keys
  | .project inner vs, c, h => by
    rw [Pattern.bgps] at h
    exact Pattern.staysInScope_project vs (inner.staysIn_plan hP c h)
  | .distinct inner, c, h | .reduced inner, c, h => by
    rw [Pattern.bgps] at h
    rw [Pattern.plan]
    exact (inner.staysIn_plan hP c h).distinct
  | .slice inner start length, c, h => by
    rw [Pattern.bgps] at h
    rw [Pattern.plan]
    exact (inner.staysIn_plan hP c h).slice start length
  | .group inner vs as, c, h => by
    rw [Pattern.bgps] at h
    exact Pattern.staysInScope_group hP vs as (inner.staysIn_plan hP c h)
  | .service name inner silent, c, h => by
    rw [Pattern.bgps] at h
    exact Pattern.staysInScope_service hP name silent fun iri =>
      inner.staysIn_plan hP (c.withActive (.named iri)) h

/-- The plans of the tests of an expression bind whatever they like: the rows do not get it. -/
theorem Expression.staysIn_tests (hP : AllowsPlans P) : (e : Expression) → (c : Scope) →
    LooksUpInScope P c.settings e.bgps → ∀ p ∈ e.tests, Plan.StaysIn P c Set.univ p
  | .constant _, _, _ | .var _, _, _ | .isBound _, _, _ => by simp [Expression.tests]
  | .or x y, c, h | .and x y, c, h | .equal x y, c, h | .sameTerm x y, c, h | .compare _ x y, c, h
  | .arithmetic _ x y, c, h => by
    rw [Expression.bgps, looksUpInScope_append] at h
    rw [Expression.tests, List.forall_mem_append]
    exact ⟨x.staysIn_tests hP c h.1, y.staysIn_tests hP c h.2⟩
  | .not x, c, h | .sign _ x, c, h => by
    rw [Expression.bgps] at h
    rw [Expression.tests]
    exact x.staysIn_tests hP c h
  | .choose x y z, c, h => by
    rw [Expression.bgps, looksUpInScope_append, looksUpInScope_append] at h
    rw [Expression.tests, List.forall_mem_append, List.forall_mem_append]
    exact ⟨⟨x.staysIn_tests hP c h.1.1, y.staysIn_tests hP c h.1.2⟩, z.staysIn_tests hP c h.2⟩
  | .member x es, c, h => by
    rw [Expression.bgps, looksUpInScope_append] at h
    rw [Expression.tests, List.forall_mem_append]
    exact ⟨x.staysIn_tests hP c h.1, Expression.staysIn_testsOfAll hP es c h.2⟩
  | .coalesce es, c, h | .call _ es, c, h => by
    rw [Expression.bgps] at h
    rw [Expression.tests]
    exact Expression.staysIn_testsOfAll hP es c h
  | .hasSolution p, c, h => by
    rw [Expression.bgps] at h
    rw [Expression.tests, List.forall_mem_singleton]
    exact (p.staysIn_plan hP c h).mono (Set.subset_univ _)

/-- The plans of the tests of several expressions stay within their scopes. -/
theorem Expression.staysIn_testsOfAll (hP : AllowsPlans P) : (es : List Expression) → (c : Scope) →
    LooksUpInScope P c.settings (Expression.bgpsOfAll es) → ∀ p ∈ Expression.testsOfAll es, Plan.StaysIn P c Set.univ p
  | [], _, _ => by simp [Expression.testsOfAll]
  | e :: es, c, h => by
    rw [Expression.bgpsOfAll, looksUpInScope_append] at h
    rw [Expression.testsOfAll, List.forall_mem_append]
    exact ⟨e.staysIn_tests hP c h.1, Expression.staysIn_testsOfAll hP es c h.2⟩

end

/-! ## Kept solutions -/

/-- Nothing is kept, or what has been kept is not asked for. -/
theorem looksUpInScope_of_cacheOff {k : Settings} (bgps : List (List TriplePattern)) :
    LooksUpInScope (fun st => k.hints.useCache = true → st.cache = none) k bgps :=
  fun _ _ _ _ => Join.staysInScope_of_cacheOff fun _ hst => hst

/-- Replacing a blank node puts no blank into a pattern. -/
theorem isUnbroken_replace {p : TriplePattern} (h : p.isUnbroken = true) :
    (HiddenVariable.replace p).isUnbroken = true := by
  have hslot : ∀ x : Slot, x.isUnbroken = true → (HiddenVariable.replaceSlot x).isUnbroken = true := by
    intro x hx
    cases x with
    | var v => exact hx
    | term t =>
      cases t with
      | iri i => exact hx
      | literal l => exact hx
      | blank b =>
        have hlabel : ' ' ∉ b.label.toList := by simpa [Slot.isUnbroken, Term.isUnbroken, isUnbroken] using hx
        simp [HiddenVariable.replaceSlot, HiddenVariable.ofNode, Slot.isUnbroken, isUnbroken, hlabel]
  rw [TriplePattern.isUnbroken, Bool.and_eq_true, Bool.and_eq_true] at h ⊢
  exact ⟨⟨hslot _ h.1.1, h.1.2⟩, hslot _ h.2⟩

/-- What is looked up for patterns without blanks in their names has none either. -/
theorem isUnbroken_of_lookedUp {ps qs : List TriplePattern} (h : ∀ p ∈ ps, p.isUnbroken = true)
    (hqs : qs ∈ Plan.lookedUp ps) : ∀ q ∈ qs, q.isUnbroken = true := by
  unfold Plan.lookedUp at hqs
  split at hqs
  · rename_i plan hplan
    split at hqs
    · cases hqs
    · rw [List.mem_singleton.1 hqs]
      have hin := SearchPlan.in_ofPatterns (W := Set.univ) (fun _ _ v _ => Set.mem_univ v) hplan
      intro q hq
      obtain ⟨p, hp, rfl⟩ := List.mem_map.1 (hin.patterns q hq)
      exact isUnbroken_replace (h p hp)
  · cases hqs

/-- No name, no label and no IRI in the basic graph patterns has a blank in it. -/
def Pattern.isUnbroken (p : Pattern) : Bool := p.bgps.all fun ps => ps.all (·.isUnbroken)

/-- If what is kept binds the variables of its patterns, it stays in scope. -/
theorem Pattern.looksUpInScope_of_kept {p : Pattern} (k : Settings) (h : p.isUnbroken = true) :
    LooksUpInScope Store.KeptInScope k p.bgps := by
  intro ps hps qs hqs
  refine Join.staysInScope_of_kept (isUnbroken_of_lookedUp (fun q hq => ?_) hqs)
  exact List.all_eq_true.1 (List.all_eq_true.1 h ps hps) q hq

/-! ## Rows that are delivered -/

/-- A name that an evaluation makes up: that of a blank node, or one with the marker of a position. -/
def Variable.IsSynthetic (v : Variable) : Prop := HiddenVariable.IsHidden v ∨ ∃ i w, v = Marker.mark i w

namespace Pattern

variable {p : Pattern} {c : Scope} {rows : List Solution} {st : Store} {row : Solution}

/-- The variables that a row may bind: those of the source, those in scope, and that of the enclosing graph. -/
def MayBind (p : Pattern) (c : Scope) (rows : List Solution) (v : Variable) : Prop :=
  (∃ s ∈ rows, s.binds v = true) ∨ v ∈ p.inScope ∨ c.active = .bound v

/-- Building the plan over some rows and running it keeps the invariant and delivers only rows in scope. -/
theorem only_later (hP : OfCache P) (h : LooksUpInScope P c.settings p.bgps) (rows : List Solution) :
    Stage.Only P (fun row => ∀ v, row.binds v = true → p.MayBind c rows v) (Plan.later (p.plan c (.ofList rows))) := by
  have hscope : p.scopeIn c ⊆ {v | p.MayBind c rows v} := by
    rintro v (hv | hv)
    · exact .inr (.inl (List.mem_eraseDups.2 hv))
    · exact .inr (.inr hv)
  have hsource : Stage.Only P (BindsIn {v | p.MayBind c rows v}) (Stage.ofList rows : Flow Solution) :=
    .ofList fun s hs v hv => .inl ⟨s, hs, hv⟩
  exact Plan.only_later (p.staysIn_plan hP.allowsPlans c h _ hscope _ hsource)

/-- Every row that a pattern delivers over some rows, also before a failure, binds only variables that a source row
binds, variables in scope in the pattern, and the variable of the enclosing graph. So no synthetic variable leaves the
pattern. -/
theorem binds_only_in_scope
    (hkept : c.settings.hints.useCache = true → st.cache = none ∨ st.KeptInScope ∧ p.isUnbroken = true)
    (hrow : .ok row ∈ ((Plan.later (p.plan c (.ofList rows))).run st).1) :
    (∀ v, row.binds v = true → p.MayBind c rows v) ∧
      ∀ v, v.IsSynthetic → ¬ p.MayBind c rows v → row.binds v = false := by
  have hbinds : ∀ v, row.binds v = true → p.MayBind c rows v := by
    by_cases hoff : c.settings.hints.useCache = true → st.cache = none
    · have honly := only_later (p := p) (c := c) ⟨fun _ _ h => h, fun _ _ h => h⟩ (looksUpInScope_of_cacheOff p.bgps) rows
      exact (honly.run hoff).1 row hrow
    · rw [Classical.not_imp] at hoff
      obtain ⟨hin, hunbroken⟩ := (hkept hoff.1).resolve_left hoff.2
      have honly := only_later ⟨fun _ _ h => h, fun _ _ h => h⟩ (looksUpInScope_of_kept c.settings hunbroken) rows
      exact (honly.run hin).1 row hrow
  refine ⟨hbinds, fun v _ hv => ?_⟩
  rw [Bool.eq_false_iff]
  exact fun h => hv (hbinds v h)

/-- Persons who know someone, in the graphs that can be seen and who still exist, or in the default graph, over two
rows at once and with a solution that has been kept: the rows bind the person and the graph. -/
theorem binds_only_in_scope_known :
    let knows : Iri := ⟨"http://example.com/knows"⟩
    let friends : Iri := ⟨"http://example.com/friends"⟩
    let x : Variable := ⟨"x"⟩
    let y : Variable := ⟨"y"⟩
    let g : Variable := ⟨"g"⟩
    let node : BlankNode := ⟨"someone"⟩
    let a : Resource := .iri ⟨"http://example.com/a"⟩
    let b : Resource := .iri ⟨"http://example.com/b"⟩
    let known : List TriplePattern := [⟨.var x, .iri knows, .term (.blank node)⟩]
    let hidden : List TriplePattern := [⟨.var x, .iri knows, .var (HiddenVariable.ofNode node)⟩]
    let graph : Graph := (Graph.empty friends ⟨true, true⟩).insertAll [⟨a, knows, b.toTerm⟩]
    let dataset : Dataset := ⟨.empty defaultGraphIri ⟨true, true⟩, [(friends, graph)], fun _ => ⟨true, true⟩⟩
    let kept : Solution := (Solution.empty.insert x b.toTerm).insert (HiddenVariable.ofNode node) a.toTerm
    let st : Store := ⟨dataset, some ⟨4, [(.ofPatterns defaultGraphIri hidden, [kept])]⟩, 0⟩
    let c : Scope := ⟨⟨.streaming, ⟨2, .structural, true⟩⟩, ⟨[], .iri knows⟩, .default, none⟩
    let p : Pattern := .union
      (.graph (.var g) (.filter (.hasSolution (.bgp [⟨.var x, .iri knows, .var y⟩])) (.bgp known)))
      (.project (.bgp known) [x])
    let rows : List Solution := [.empty, Solution.empty.insert x a.toTerm]
    let row : Solution := (Solution.empty.insert x a.toTerm).insert g (.iri friends)
    (c.settings.hints.useCache = true → st.cache = none ∨ st.KeptInScope ∧ p.isUnbroken = true) ∧
      .ok row ∈ ((Plan.later (p.plan c (.ofList rows))).run st).1 ∧
      ((∀ v, row.binds v = true → p.MayBind c rows v) ∧
        ∀ v, v.IsSynthetic → ¬ p.MayBind c rows v → row.binds v = false) := by
  intro knows friends x y g node a b known hidden graph dataset kept st c p rows row
  have hin : st.KeptInScope := by
    intro e he
    obtain rfl := List.mem_singleton.1 he
    refine ⟨defaultGraphIri, hidden, by decide, rfl, .cons ?_ .nil⟩
    have hx : x ∈ TriplePattern.varsOf hidden := ⟨_, List.mem_cons_self, by decide⟩
    have hnode : HiddenVariable.ofNode node ∈ TriplePattern.varsOf hidden := ⟨_, List.mem_cons_self, by decide⟩
    exact (bindsIn_empty.insert hx).insert hnode
  have hunbroken : p.isUnbroken = true := by decide
  have hkept : c.settings.hints.useCache = true → st.cache = none ∨ st.KeptInScope ∧ p.isUnbroken = true :=
    fun _ => .inr ⟨hin, hunbroken⟩
  have hrow : .ok row ∈ ((Plan.later (p.plan c (.ofList rows))).run st).1 := by decide +kernel
  exact ⟨hkept, hrow, binds_only_in_scope hkept hrow⟩

/-- What is kept along the way binds the variables of its patterns. -/
theorem keptInScope_run (hin : st.KeptInScope) (hunbroken : p.isUnbroken = true) (rows : List Solution) :
    ((Plan.later (p.plan c (.ofList rows))).run st).2.KeptInScope :=
  ((only_later ⟨fun _ _ h => h, fun _ _ h => h⟩ (looksUpInScope_of_kept c.settings hunbroken) rows).run hin).2

end Pattern

end SparqlAlgebra

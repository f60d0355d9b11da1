import SparqlAlgebra.Proofs.Plan.Merging
import SparqlAlgebra.Proofs.Solution.Bag

/-!
# Filters within a group

A filter is evaluated for the solutions of its group after the bindings of the row have been filled in, so its
expression sees these bindings too. It makes the same selection as for the group alone exactly as long as they do not
change for which solutions the expression is true, and then the order of a join with the group does not matter either.
-/

namespace SparqlAlgebra

open Solution Stage Join

variable {P : Store → Prop} {c : Scope} {r : GraphRef} {st : Store} {source : Flow Solution} {e : Expression}
  {ready : Expression.Ready} {x : QueryError}

/-- Without tests a filter keeps the rows for which its expression is true. -/
theorem Rows.filter_nil (hready : e.ready c.compiler = .ok ready) (V : Multiset Solution) :
    Rows.filter c.compiler e [] V = V.filter fun s => ready.accepts s = true := by
  have hselect : Rows.filter c.compiler e [] = Rows.select c.compiler e [] := by
    unfold Rows.filter
    split <;> simp_all
  rw [hselect, Rows.select_nil hready]

namespace Rows.Carries

variable {A B : Rows} {vs ws : List Variable} {m : Solution} {accepts : Solution → Bool}

/-- A selection is the same before a row is merged and afterwards if and only if the row makes no difference to it. -/
theorem filter_single_eq_iff (hB : B.Carries vs) (hm : ∀ v ∈ vs, m.get? v = none) :
    (B {m}).filter (fun s => accepts s = true) =
        ((B {Solution.empty}).filter fun s => accepts s = true).filterMap m.merge? ↔
      ∀ s ∈ B {Solution.empty}, ∀ t, m.merge? s = some t → accepts t = accepts s := by
  rw [hB.single hm, filter_filterMap_eq_iff]
  exact forall₂_congr fun s _ => forall₂_congr fun t _ => Bool.eq_iff_iff.symm

/-- Two groups, one of them with a selection to which the other one makes no difference, may be joined in either
order. -/
theorem filter_comm (hA : A.Carries ws) (hB : B.Carries vs)
    (hleft : ∀ l ∈ A {Solution.empty}, (∀ v ∈ vs, l.get? v = none) ∧
      ∀ s ∈ B {Solution.empty}, ∀ t, l.merge? s = some t → accepts t = accepts s)
    (hall : ∀ s ∈ (B {Solution.empty}).filter fun s => accepts s = true, ∀ v ∈ ws, s.get? v = none) :
    (B (A {Solution.empty})).filter (fun s => accepts s = true) =
      A ((B {Solution.empty}).filter fun s => accepts s = true) := by
  rw [hA.eq_join hall, join_comm, Solution.join, hB.rowWise, Multiset.filter_bind]
  exact Multiset.bind_congr fun l hl => (hB.filter_single_eq_iff (hleft l hl).1).2 (hleft l hl).2

end Rows.Carries

namespace Plan

open Build

variable {p : Plan} {F : Rows} {Q : Flow Solution → Prop}

/-- A filter without tests keeps the rows that its expression accepts, and does not fail. -/
theorem means_filter_nil (hp : Means P False c p F) (he : e.isSteady = true) (hready : e.ready c.compiler = .ok ready) :
    Means P False c (filter e [] p) fun V => (F V).filter fun s => ready.accepts s = true := by
  have hfilter := means_filter .nil hp (Keeps.any (Q := fun _ => True)) (.of_ready he hready)
  simp only [Rows.filter_nil hready] at hfilter
  exact hfilter

/-- An expression that cannot be compiled makes the filter fail, whatever its rows are. -/
theorem filter_nil_error (hp : Gives False st Q (p c source)) (hx : e.ready c.compiler = .error x) :
    ((filter e [] p c source >>= collect).run st).1 = .error x := by
  have hcompile : ∀ stage, ((applyFilter c · [] stage) =<< compile c e).run st = (.error x, st) := by
    intro stage
    rw [compile, hx]
    rfl
  have hrun : (filter e [] p c source).run st = (.error x, st) := by
    obtain ⟨stage, hstage, -⟩ := hp.exists_ok
    rw [filter, run_bind_ok hstage]
    split
    · contradiction
    · contradiction
    · exact hcompile stage
  rw [run_bind, hrun]

end Plan

namespace Pattern

variable {a b : Pattern} {m : Solution}

/-- A group with a filter, handed a row that binds nothing that the group overwrites. The group is joined with the row.
The filter selects from the join what it selects from the group if and only if the expression overlooks the row, so in
particular if each solution of the group binds all variables of the expression that the row binds. If it overlooks
all solutions of another group, then both groups may be joined in either order. -/
theorem filter_sees_own_group_iff (ha : a.Joins) (hb : b.Joins) (he : e.isSteady = true) (htests : e.tests = [])
    (hr : c.activeGraph? st.dataset = .ok (some r)) (hbatch : c.settings.hints.batchSize < 2 ^ 64)
    (hkept : st.cache = none ∨
      ToldApart st.dataset (c.lookups st.dataset ((Pattern.join a b).touches c.active)) ∧
        ∀ e ∈ st.kept, Current st.dataset (c.lookups st.dataset ((Pattern.join a b).touches c.active)) e)
    (hm : ∀ v ∈ b.overwrites, m.get? v = none) :
    (∀ x, e.ready c.compiler = .error x →
      (Pattern.filter e b).solve c st m = .error x ∧ (Pattern.filter e b).solve c st .empty = .error x) ∧
    ∀ ready, e.ready c.compiler = .ok ready → ∃ group found kept all : List Solution,
      b.solve c st .empty = .ok group ∧ b.solve c st m = .ok found ∧
      (Pattern.filter e b).solve c st .empty = .ok all ∧ (Pattern.filter e b).solve c st m = .ok kept ∧
      found.Perm (group.filterMap m.merge?) ∧
      (kept.Perm (all.filterMap m.merge?) ↔ ready.Overlooks m group) ∧
      ((∀ v ∈ ready.root.reads, m.binds v = true → ∀ s ∈ group, s.binds v = true) →
        kept.Perm (all.filterMap m.merge?)) ∧
      ∃ left joined swapped : List Solution,
        a.solve c st .empty = .ok left ∧ (Pattern.join a (.filter e b)).solve c st .empty = .ok joined ∧
        (Pattern.join (.filter e b) a).solve c st .empty = .ok swapped ∧
        ((∀ l ∈ left, (∀ v ∈ b.overwrites, l.get? v = none) ∧ ready.Overlooks l group) →
          (∀ s ∈ all, ∀ v ∈ a.overwrites, s.get? v = none) → joined.Perm swapped) := by
  obtain ⟨P, hst, hP, hanswers⟩ := exists_answers hkept
  rw [touches] at hanswers
  obtain ⟨A, hA, carriesA⟩ := ha.exists_rows hP hr hanswers.left hbatch
  obtain ⟨B, hB, carriesB⟩ := hb.exists_rows hP hr hanswers.right hbatch
  refine ⟨fun x hx => ?_, fun ready hready => ?_⟩
  · have hfails : ∀ s, (Pattern.filter e b).solve c st s = .error x := by
      intro s
      rw [solve, solveOver, plan, htests]
      exact Plan.filter_nil_error (hB.single (s := s) trivial hst) hx
    exact ⟨hfails m, hfails .empty⟩
  have hF : Plan.Means P False c (Pattern.filter e b).plan fun V => (B V).filter fun s => ready.accepts s = true := by
    rw [plan, htests]
    exact Plan.means_filter_nil hB he hready
  have hAF : Plan.Means P False c (Pattern.join a (.filter e b)).plan fun V =>
      (B (A V)).filter fun s => ready.accepts s = true := by
    rw [plan]
    exact Plan.means_join (A := A) (B := fun V => (B V).filter _) hA .any hF
  have hFA : Plan.Means P False c (Pattern.join (.filter e b) a).plan fun V =>
      A ((B V).filter fun s => ready.accepts s = true) := by
    rw [plan]
    exact Plan.means_join (A := fun V => (B V).filter _) (B := A) hF .any hA
  obtain ⟨group, hgroup, groupB⟩ := exists_solve hB hst .empty
  obtain ⟨found, hfound, foundB⟩ := exists_solve hB hst m
  obtain ⟨all, hall, allF⟩ := exists_solve hF hst .empty
  obtain ⟨kept, hkept, keptF⟩ := exists_solve hF hst m
  obtain ⟨left, hleft, leftA⟩ := exists_solve hA hst .empty
  obtain ⟨joined, hjoined, joinedAF⟩ := exists_solve hAF hst .empty
  obtain ⟨swapped, hswapped, swappedFA⟩ := exists_solve hFA hst .empty
  have hoverlooks : ∀ l, ready.Overlooks l group ↔
      ∀ s ∈ B {Solution.empty}, ∀ t, l.merge? s = some t → ready.accepts t = ready.accepts s := by
    intro l
    rw [← groupB]
    rfl
  have hiff : kept.Perm (all.filterMap m.merge?) ↔ ready.Overlooks m group := by
    rw [← Multiset.coe_eq_coe, ← Multiset.filterMap_coe, keptF, allF, hoverlooks]
    exact carriesB.filter_single_eq_iff hm
  refine ⟨group, found, kept, all, hgroup, hfound, hall, hkept, ?_, hiff,
    fun hbinds => hiff.2 (Expression.Ready.overlooks_of_binds hbinds), left, joined, swapped, hleft, hjoined, hswapped,
    fun hl hs => ?_⟩
  · rw [← Multiset.coe_eq_coe, ← Multiset.filterMap_coe, foundB, groupB]
    exact carriesB.single hm
  · rw [← Multiset.coe_eq_coe, joinedAF, swappedFA]
    refine carriesA.filter_comm carriesB (fun l hmem => ?_) fun s hmem => ?_
    · rw [← leftA] at hmem
      obtain ⟨hfree, hover⟩ := hl l hmem
      exact ⟨hfree, (hoverlooks l).1 hover⟩
    · rw [← allF] at hmem
      exact hs s hmem

/-- A row that binds a variable for which the filter asks and which the group leaves open: the filter keeps nothing for
the group alone, but it keeps the solution of the group once the row has been filled in. -/
theorem filter_sees_own_group_iff_bound :
    let knows : Iri := ⟨"http://example.com/knows"⟩
    let s : Variable := ⟨"s"⟩
    let o : Variable := ⟨"o"⟩
    let x : Variable := ⟨"x"⟩
    let alice : Iri := ⟨"http://example.com/a"⟩
    let bob : Term := .iri ⟨"http://example.com/b"⟩
    let carol : Term := .iri ⟨"http://example.com/c"⟩
    let graph : Graph := (Graph.empty defaultGraphIri ⟨true, true⟩).insert ⟨.iri alice, knows, bob⟩
    let st : Store := ⟨⟨graph, [], fun _ => ⟨true, true⟩⟩, none, 0⟩
    let c : Scope := ⟨⟨.streaming, ⟨2, .structural, true⟩⟩, ⟨[], .iri knows⟩, .default, none⟩
    let a : Pattern := .values [x] [[some carol]]
    let b : Pattern := .bgp [⟨.var s, .iri knows, .var o⟩]
    let e : Expression := .isBound x
    let m : Solution := Solution.empty.insert x carol
    a.Joins ∧ b.Joins ∧ e.isSteady = true ∧ e.tests = [] ∧
      c.activeGraph? st.dataset = .ok (some (.single .default)) ∧ c.settings.hints.batchSize < 2 ^ 64 ∧
      (st.cache = none ∨
        ToldApart st.dataset (c.lookups st.dataset ((Pattern.join a b).touches c.active)) ∧
          ∀ e ∈ st.kept, Current st.dataset (c.lookups st.dataset ((Pattern.join a b).touches c.active)) e) ∧
      (∀ v ∈ b.overwrites, m.get? v = none) ∧
      (Pattern.filter e b).solve c st .empty = .ok [] ∧
      (Pattern.filter e b).solve c st m = .ok [(m.insert s (.iri alice)).insert o bob] ∧
      ∃ ready group, e.ready c.compiler = .ok ready ∧ b.solve c st .empty = .ok group ∧ ¬ ready.Overlooks m group := by
  intro knows s o x alice bob carol graph st c a b e m
  have ha : a.Joins := .values
  have hb : b.Joins := .bgp (by decide) (by decide)
  have he : e.isSteady = true := by decide
  have htests : e.tests = [] := by rw [Expression.tests]
  have hr : c.activeGraph? st.dataset = .ok (some (.single .default)) := rfl
  have hbatch : c.settings.hints.batchSize < 2 ^ 64 := by decide
  have hkept : st.cache = none ∨
      ToldApart st.dataset (c.lookups st.dataset ((Pattern.join a b).touches c.active)) ∧
        ∀ e ∈ st.kept, Current st.dataset (c.lookups st.dataset ((Pattern.join a b).touches c.active)) e := .inl rfl
  have hm : ∀ v ∈ b.overwrites, m.get? v = none := by decide
  have hempty : (Pattern.filter e b).solve c st .empty = .ok [] := by decide +kernel
  have hfound : (Pattern.filter e b).solve c st m = .ok [(m.insert s (.iri alice)).insert o bob] := by decide +kernel
  refine ⟨ha, hb, he, htests, hr, hbatch, hkept, hm, hempty, hfound, ?_⟩
  obtain ⟨ready, hready⟩ : ∃ ready, e.ready c.compiler = .ok ready := ⟨_, rfl⟩
  obtain ⟨group, _, kept, all, hgroup, _, hall, hsome, _, hiff, _⟩ :=
    (filter_sees_own_group_iff ha hb he htests hr hbatch hkept hm).2 ready hready
  refine ⟨ready, group, hready, hgroup, fun hover => ?_⟩
  rw [hempty] at hall
  rw [hfound] at hsome
  cases hall
  cases hsome
  exact absurd (hiff.2 hover) (by decide +kernel)

end Pattern

end SparqlAlgebra

import SparqlAlgebra.Proofs.Plan.Merging

/-!
# Optional parts

The optional part of a pattern is planned again for each solution of the rest, with its bindings filled in. What comes
out is the left join of the solutions of both parts, as each of them has them from scratch: a solution with all its
compatible ones for which the condition is true, or alone if there are none. The solutions of the rest must not bind
variables that the optional part overwrites, since those would be lost.
-/

namespace SparqlAlgebra

open Solution Stage Join

variable {P : Store → Prop} {c : Scope} {r : GraphRef} {st : Store} {source : Flow Solution}
  {condition : Option Expression} {ready : Option Expression.Ready} {x : QueryError}

namespace Solution

/-- Whether a condition is true for a solution, if there is one. -/
def meets (s : Solution) (condition : Option Expression.Ready) : Bool := condition.all fun r => r.accepts s

/-- The merges of a solution with some others that meet a condition. -/
def mergesIn (s : Solution) (right : List Solution) (condition : Option Expression.Ready) : List Solution :=
  (right.filterMap s.merge?).filter fun t => t.meets condition

/-- Each solution with its merges, or alone if it has none. -/
def leftJoin (left right : List Solution) (condition : Option Expression.Ready) : List Solution :=
  left.flatMap fun s => if (s.mergesIn right condition).isEmpty then [s] else s.mergesIn right condition

end Solution

/-- If the right side joins its rows, the matches of a row are its merges with what the right side has for the empty
row. -/
theorem Rows.Carries.leftJoin_eq {A B : Rows} {vs : List Variable} {left right : List Solution} (hB : B.Carries vs)
    (hleft : (left : Multiset Solution) = A {Solution.empty})
    (hright : (right : Multiset Solution) = B {Solution.empty})
    (hfree : ∀ s ∈ left, ∀ v ∈ vs, s.get? v = none) :
    Rows.leftJoin A B (Multiset.filter fun s => s.meets ready = true) {Solution.empty} =
      Solution.leftJoin left right ready := by
  have hmatches : ∀ s ∈ left, (B {s}).filter (fun t => t.meets ready = true) = s.mergesIn right ready := by
    intro s hs
    rw [hB.single (hfree s hs), ← hright, Multiset.filterMap_coe, Multiset.filter_coe, Solution.mergesIn]
    simp
  rw [Rows.leftJoin, ← hleft, Solution.leftJoin, ← Multiset.coe_bind]
  refine Multiset.bind_congr fun s hs => ?_
  rw [hmatches s hs]
  by_cases hempty : s.mergesIn right ready = []
  · rw [hempty]
    rfl
  · rw [if_neg (by simpa using hempty), if_neg (by simpa using hempty)]

namespace Plan

open Build

variable {a b : Plan} {A B : Rows} {Q : Flow Solution → Prop}

/-- An optional part with conditions that have no tests means the rows joined with it, as far as they meet the
conditions. -/
theorem means_leftJoin_nil (ha : Means P False c a A) (hb : Means P False c b B)
    (he : ∀ e ∈ condition, e.isSteady = true) (hready : condition.mapM (·.ready c.compiler) = .ok ready) :
    Means P False c (leftJoin a b (condition.map (·, [])))
      (Rows.leftJoin A B (Multiset.filter fun s => s.meets ready = true)) := by
  cases condition with
  | none =>
    cases hready
    have hjoin := means_leftJoin_none ha (Keeps.any (Q := fun _ => True)) hb
    have hall : Multiset.filter (fun s => s.meets none = true) = (id : Rows) := by
      funext V
      exact Multiset.filter_eq_self.2 fun _ _ => rfl
    rwa [hall]
  | some e =>
    cases hq : e.ready c.compiler with
    | error x => simp [hq] at hready
    | ok q =>
      obtain rfl : ready = some q := by simpa [hq] using hready.symm
      have hjoin := means_leftJoin_some ha (Keeps.any (Q := fun _ => True)) hb (Keeps.any (Q := fun _ => True)) .nil
        (.of_ready (he e rfl) hq)
      rw [Rows.select_nil hq] at hjoin
      exact hjoin

/-- A condition that cannot be compiled makes the left join fail, whatever its rows are. -/
theorem leftJoin_nil_error (ha : Gives False st Q (a c source)) (hb : Gives False st (fun _ => True) (validate b c))
    (hx : condition.mapM (·.ready c.compiler) = .error x) :
    ((leftJoin a b (condition.map (·, [])) c source >>= collect).run st).1 = .error x := by
  cases condition with
  | none => cases hx
  | some e =>
    have he : e.ready c.compiler = .error x := by
      cases hq : e.ready c.compiler with
      | error y => simpa [hq] using hx
      | ok q => simp [hq] at hx
    obtain ⟨left, hleft, -⟩ := ha.exists_ok
    obtain ⟨valid, hvalid, -⟩ := hb.exists_ok
    have hcompile : compile c e = throw x := by rw [compile, he]
    have hrun : (leftJoin a b (some (e, [])) c source).run st = (.error x, st) := by
      rw [leftJoin, run_bind_ok hleft, run_bind_ok hvalid, Option.mapM_some]
      dsimp only
      rw [hcompile]
      rfl
    rw [Option.map_some, run_bind, hrun]

end Plan

namespace Pattern

variable {l o : Pattern}

/-- What is collected from a left join over the empty row: the left join of what is collected from both parts, provided
that no solution of the left part binds a variable that the optional part overwrites. The condition is compiled first,
and if this fails so does the query. -/
theorem optional_is_left_join (hl : l.Joins) (ho : o.Joins)
    (hcondition : ∀ e ∈ condition, e.isSteady = true ∧ e.tests = [])
    (hr : c.activeGraph? st.dataset = .ok (some r)) (hbatch : c.settings.hints.batchSize < 2 ^ 64)
    (hkept : st.cache = none ∨
      ToldApart st.dataset (c.lookups st.dataset ((Pattern.leftJoin l o condition).touches c.active)) ∧
        ∀ e ∈ st.kept, Current st.dataset
          (c.lookups st.dataset ((Pattern.leftJoin l o condition).touches c.active)) e) :
    (∀ x, condition.mapM (·.ready c.compiler) = .error x →
      (Pattern.leftJoin l o condition).solve c st .empty = .error x) ∧
    ∀ ready, condition.mapM (·.ready c.compiler) = .ok ready → ∃ left right rows : List Solution,
      l.solve c st .empty = .ok left ∧ o.solve c st .empty = .ok right ∧
      (Pattern.leftJoin l o condition).solve c st .empty = .ok rows ∧
      ((∀ s ∈ left, ∀ v ∈ o.overwrites, s.get? v = none) → rows.Perm (Solution.leftJoin left right ready)) := by
  obtain ⟨P, hst, hP, hanswers⟩ := exists_answers hkept
  have hboth : Answers P c st.dataset (l.touches c.active ++ o.touches c.active) := by
    refine hanswers.mono fun t ht => ?_
    cases condition with
    | none => rwa [touches]
    | some e =>
      rw [touches]
      exact List.mem_append_left _ ht
  obtain ⟨A, hA, -⟩ := hl.exists_rows hP hr hboth.left hbatch
  obtain ⟨B, hB, carriesB⟩ := ho.exists_rows hP hr hboth.right hbatch
  have hplan : (Pattern.leftJoin l o condition).plan = Plan.leftJoin l.plan o.plan (condition.map (·, [])) := by
    cases condition with
    | none => rw [plan, Option.map_none]
    | some e => rw [plan, (hcondition e rfl).2, Option.map_some]
  refine ⟨fun x hx => ?_, fun ready hready => ?_⟩
  · rw [solve, solveOver, hplan]
    exact Plan.leftJoin_nil_error (hA.single (s := .empty) trivial hst) (hB.validate hst) hx
  have hLO := Plan.means_leftJoin_nil hA hB (fun e he => (hcondition e he).1) hready
  rw [← hplan] at hLO
  obtain ⟨left, hleft, leftA⟩ := exists_solve hA hst .empty
  obtain ⟨right, hright, rightB⟩ := exists_solve hB hst .empty
  obtain ⟨rows, hrows, rowsLO⟩ := exists_solve hLO hst .empty
  refine ⟨left, right, rows, hleft, hright, hrows, fun hfree => ?_⟩
  rw [← Multiset.coe_eq_coe, rowsLO]
  exact carriesB.leftJoin_eq leftA rightB hfree

/-- Two persons, of whom one knows an older one: this one comes with the older one, the other one alone. -/
theorem optional_is_left_join_condition :
    let knows : Iri := ⟨"http://example.com/knows"⟩
    let x : Variable := ⟨"x"⟩
    let y : Variable := ⟨"y"⟩
    let alice : Iri := ⟨"http://example.com/a"⟩
    let bob : Iri := ⟨"http://example.com/b"⟩
    let graph : Graph := ((Graph.empty defaultGraphIri ⟨true, true⟩).insert ⟨.iri alice, knows, .iri bob⟩).insert
      ⟨.iri bob, knows, .iri bob⟩
    let st : Store := ⟨⟨graph, [], fun _ => ⟨true, true⟩⟩, none, 0⟩
    let c : Scope := ⟨⟨.vectorized, ⟨2, .structural, true⟩⟩, ⟨[], .iri knows⟩, .default, none⟩
    let l : Pattern := .values [x] [[some (.iri alice)], [some (.iri bob)]]
    let o : Pattern := .bgp [⟨.var x, .iri knows, .var y⟩]
    let condition : Option Expression := some (.not (.equal (.var x) (.var y)))
    let row : Solution := Solution.empty.insert x (.iri alice)
    l.Joins ∧ o.Joins ∧ (∀ e ∈ condition, e.isSteady = true ∧ e.tests = []) ∧
      c.activeGraph? st.dataset = .ok (some (.single .default)) ∧ c.settings.hints.batchSize < 2 ^ 64 ∧
      (st.cache = none ∨
        ToldApart st.dataset (c.lookups st.dataset ((Pattern.leftJoin l o condition).touches c.active)) ∧
          ∀ e ∈ st.kept, Current st.dataset
            (c.lookups st.dataset ((Pattern.leftJoin l o condition).touches c.active)) e) ∧
      ∃ ready left right, condition.mapM (·.ready c.compiler) = .ok ready ∧ l.solve c st .empty = .ok left ∧
        o.solve c st .empty = .ok right ∧ (∀ s ∈ left, ∀ v ∈ o.overwrites, s.get? v = none) ∧
        (Pattern.leftJoin l o condition).solve c st .empty =
          .ok [row.insert y (.iri bob), Solution.empty.insert x (.iri bob)] ∧
        [row.insert y (.iri bob), Solution.empty.insert x (.iri bob)].Perm (Solution.leftJoin left right ready) := by
  intro knows x y alice bob graph st c l o condition row
  have hl : l.Joins := .values
  have ho : o.Joins := .bgp (by decide) (by decide)
  have hcondition : ∀ e ∈ condition, e.isSteady = true ∧ e.tests = [] := by
    intro e he
    rw [← Option.some.inj he]
    exact ⟨by decide, by simp [Expression.tests]⟩
  have hr : c.activeGraph? st.dataset = .ok (some (.single .default)) := rfl
  have hbatch : c.settings.hints.batchSize < 2 ^ 64 := by decide
  have hkept : st.cache = none ∨
      ToldApart st.dataset (c.lookups st.dataset ((Pattern.leftJoin l o condition).touches c.active)) ∧
        ∀ e ∈ st.kept, Current st.dataset
          (c.lookups st.dataset ((Pattern.leftJoin l o condition).touches c.active)) e := .inl rfl
  obtain ⟨ready, hready⟩ : ∃ ready, condition.mapM (·.ready c.compiler) = .ok ready := ⟨_, rfl⟩
  have hsolved : (Pattern.leftJoin l o condition).solve c st .empty =
      .ok [row.insert y (.iri bob), Solution.empty.insert x (.iri bob)] := by decide +kernel
  obtain ⟨left, right, rows, hleft, hright, hrows, hperm⟩ :=
    (optional_is_left_join hl ho hcondition hr hbatch hkept).2 ready hready
  have hfree : ∀ s ∈ left, ∀ v ∈ o.overwrites, s.get? v = none := by
    intro s _ v hv
    exact absurd hv (by simp [show o.overwrites = [] by decide])
  rw [hsolved] at hrows
  cases hrows
  exact ⟨hl, ho, hcondition, hr, hbatch, hkept, ready, left, right, hready, hleft, hright, hfree, hsolved, hperm hfree⟩

end Pattern

end SparqlAlgebra

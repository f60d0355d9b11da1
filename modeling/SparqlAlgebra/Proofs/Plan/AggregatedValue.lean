import SparqlAlgebra.Proofs.Aggregate.OrderFree
import SparqlAlgebra.Proofs.Plan.Collected

/-!
# Aggregates over an expression and over a variable bound to it

The solutions of a group are put together again from its columns, and an aggregate over an expression evaluates it for
each of them, without the answers to its tests. An aggregate over a variable reads the values that an extension has
bound, and an extension carries out the tests. So both are the same as long as the expression tests nothing, failures
included; otherwise they are the same just if the answers do not matter for what becomes of any group, or an aggregate
fails either way.
-/

namespace SparqlAlgebra

section OneFailure

variable {ε α β : Type} {f g : α → Except ε β} {e : ε} {xs : List α}

/-- A function that fails in one way only maps a list to values, or it fails at some member. -/
theorem mapM_cases (hf : ∀ a x, f a = .error x → x = e) (xs : List α) :
    (∃ ys, xs.mapM f = .ok ys ∧ xs.map f = ys.map .ok) ∨ xs.mapM f = .error e ∧ ∃ a ∈ xs, f a = .error e := by
  rw [Stage.mapM_eq_outcome]
  obtain ⟨ys, hys⟩ | ⟨ys, x, later, hys⟩ := Stage.values_or_failure (xs.map f)
  · exact .inl ⟨ys, by rw [hys, Stage.outcome_values], hys⟩
  · have hx : Except.error x ∈ xs.map f := by simp [hys]
    obtain ⟨a, ha, hax⟩ := List.mem_map.1 hx
    obtain rfl := hf a x hax
    exact .inr ⟨by rw [hys, Stage.outcome_failure], a, ha, hax⟩

/-- Where every value is there, none fails. -/
theorem not_exists_error {ys : List β} (hys : xs.map f = ys.map .ok) : ¬ ∃ a ∈ xs, f a = .error e := by
  rintro ⟨a, ha, hae⟩
  have hmem : Except.error e ∈ ys.map (Except.ok : β → Except ε β) := hys ▸ List.mem_map.2 ⟨a, ha, hae⟩
  simp at hmem

/-- Two such functions map a list alike just if both fail somewhere or they agree everywhere. -/
theorem mapM_eq_mapM_iff (hf : ∀ a x, f a = .error x → x = e) (hg : ∀ a x, g a = .error x → x = e) :
    xs.mapM f = xs.mapM g ↔
      ((∃ a ∈ xs, f a = .error e) ∧ ∃ a ∈ xs, g a = .error e) ∨ ∀ a ∈ xs, f a = g a := by
  obtain ⟨ys, hys, hfs⟩ | ⟨hfe, hfa⟩ := mapM_cases hf xs
  · have hfnone := not_exists_error (e := e) hfs
    rw [or_iff_right fun h => hfnone h.1, ← List.map_inj_left, hys]
    obtain ⟨zs, hzs, hgs⟩ | ⟨hge, a, ha, hae⟩ := mapM_cases hg xs
    · rw [hzs, Except.ok.injEq, hfs, hgs]
      exact (List.map_inj_right fun _ _ => Except.ok.inj).symm
    · rw [hge]
      refine ⟨nofun, fun h => absurd ⟨a, ha, ?_⟩ hfnone⟩
      rw [List.map_inj_left.1 h a ha, hae]
  · obtain ⟨zs, hzs, hgs⟩ | ⟨hge, hga⟩ := mapM_cases hg xs
    · have hgnone := not_exists_error (e := e) hgs
      obtain ⟨a, ha, hae⟩ := hfa
      rw [hfe, hzs, or_iff_right fun h => hgnone h.2]
      exact ⟨nofun, fun h => absurd ⟨a, ha, (h a ha).symm.trans hae⟩ hgnone⟩
    · rw [hfe, hge]
      exact iff_of_true rfl (.inl ⟨hfa, hga⟩)

end OneFailure

namespace Group

variable {vs : List Variable} {rows : List Solution} {q : List (Option Term)}

/-- The solution of a group with some key values, whose one aggregate takes the given values. -/
def aggregated (vs : List Variable) (v : Variable) (start : Accumulator) (distinct : Bool) (q : List (Option Term))
    (ts : List (Option Term)) : Except QueryError Solution :=
  match start.ofList (if distinct then Accumulator.keepDistinct ts else ts) with
  | none => .error (.aggregate v)
  | some t => .ok (bindAll ((⟨q, .empty⟩ : Group).solution vs) [(v, t)])

/-- A single aggregate of a group is what its accumulator makes of the values of the rows. -/
theorem evaluate_single {r : Expression.Ready} (hr : r.root.drawsNothing = true) (v : Variable) (start : Accumulator)
    (distinct : Bool) :
    (⟨q, .ofList rows⟩ : Group).evaluate vs [] [(v, .apply start distinct r)] 0 =
      aggregated vs v start distinct q (rows.map fun s => r.root.term? ⟨s, [], 0⟩) := by
  have hall : ∀ s : Solution, (s.filter fun w _ => !([] : List Variable).contains w) = s := by
    intro s
    refine Solution.ext_get? fun w => ?_
    rw [Solution.get?_filter]
    cases s.get? w <;> rfl
  rw [evaluate, aggregates, ReadyAggregate.evaluate, aggregated]
  dsimp only
  rw [ReadyAggregate.values_ofList hr]
  cases start.ofList (if distinct then Accumulator.keepDistinct (rows.map fun s => r.root.term? ⟨s, [], 0⟩)
    else rows.map fun s => r.root.term? ⟨s, [], 0⟩) with
  | none => rfl
  | some t => exact congrArg Except.ok (hall _)

end Group

namespace Plan

variable {c : Scope} {e : Expression} {r : Expression.Ready} {vs : List Variable} {v k : Variable} {f : SetFunction}
  {start : Accumulator} {distinct : Bool}

/-- The solution of the group with some key values, whose aggregate is over an expression. -/
def groupSolution (vs : List Variable) (v : Variable) (start : Accumulator) (distinct : Bool) (r : Expression.Ready)
    (found : List (Solution × List Bool)) (q : List (Option Term)) : Except QueryError Solution :=
  Group.aggregated vs v start distinct q ((found.filter fun x => Group.keyOf vs x.1 = q).map (valueOf r))

/-- There is one way for it to fail. -/
theorem eq_of_groupSolution_error {found : List (Solution × List Bool)} {q : List (Option Term)} {x : QueryError}
    (h : groupSolution vs v start distinct r found q = .error x) : x = .aggregate v := by
  rw [groupSolution, Group.aggregated] at h
  split at h
  · exact (Except.error.inj h).symm
  · cases h

/-- The solutions of the groups of solutions with their answers, up to the first aggregate that fails. -/
def groupSolutions (vs : List Variable) (v : Variable) (start : Accumulator) (distinct : Bool) (r : Expression.Ready)
    (found : List (Solution × List Bool)) : Except QueryError (List Solution) :=
  (Group.keys vs (found.map (·.1))).mapM (groupSolution vs v start distinct r found)

/-- Only the key values of the members and their values matter. -/
theorem groupSolutions_map {r' : Expression.Ready} {found : List (Solution × List Bool)}
    {g : Solution × List Bool → Solution × List Bool} (hkey : ∀ x ∈ found, Group.keyOf vs (g x).1 = Group.keyOf vs x.1)
    (hvalue : ∀ x ∈ found, valueOf r' (g x) = valueOf r x) :
    groupSolutions vs v start distinct r' (found.map g) = groupSolutions vs v start distinct r found := by
  have hkeys : Group.keys vs ((found.map g).map (·.1)) = Group.keys vs (found.map (·.1)) := by
    have hmap : ((found.map g).map (·.1)).map (Group.keyOf vs) = (found.map (·.1)).map (Group.keyOf vs) := by
      rw [List.map_map, List.map_map, List.map_map]
      exact List.map_congr_left hkey
    rw [Group.keys, Group.keys, hmap]
  have hsolution : groupSolution vs v start distinct r' (found.map g) = groupSolution vs v start distinct r found := by
    funext q
    have hmembers : found.filter ((fun x => decide (Group.keyOf vs x.1 = q)) ∘ g) =
        found.filter fun x => Group.keyOf vs x.1 = q :=
      List.filter_congr fun x hx => by rw [Function.comp_apply, hkey x hx]
    rw [groupSolution, groupSolution, List.filter_map, List.map_map, hmembers]
    exact congrArg _ (List.map_congr_left fun x hx => hvalue x (List.mem_of_mem_filter hx))
  rw [groupSolutions, groupSolutions, hkeys, hsolution]

/-- Grouping by variables with one aggregate over an expression that draws nothing. -/
theorem run_collect_group (hstart : f.start? = some start) (hsteady : e.isSteady = true)
    (hr : e.ready c.compiler = .ok r) (inner : Plan) (source : Flow Solution) (st : Store) :
    (group vs [(v, .apply f distinct e)] inner c source >>= collect).run st =
      (((inner c source >>= collect).run st).1 >>= fun rows =>
          groupSolutions vs v start distinct r (rows.map fun s => (s, [])),
        ((inner c source >>= collect).run st).2) := by
  obtain ⟨hdraws, hroot⟩ := Expression.ready_steady hsteady hr
  have hready := Aggregate.ready_apply hstart distinct e c.compiler
  rw [hr, Except.map] at hready
  have hgroup : group vs [(v, .apply f distinct e)] inner c source =
      (do
        let stage ← inner c source
        return c.engine.tryMap (Group.evaluate vs [] [(v, .apply start distinct r)] 0)
          (c.engine.rearrange (Group.ofRows vs) stage)) := by
    simp only [group, applyGroup, List.mapM_cons, List.mapM_nil, hready, pure_bind, bindKeys_vars, List.all_cons,
      List.all_nil, ReadyAggregate.draws, hdraws, BEq.rfl, Bool.and_true, if_true]
  rw [hgroup, run_collect_bind (fun stage st => c.engine.collect_tryMap_rearrange (Group.ofRows vs) _ stage st)]
  have hgroups : ∀ rows : List Solution,
      (Group.ofRows vs rows).mapM (Group.evaluate vs [] [(v, .apply start distinct r)] 0) =
        groupSolutions vs v start distinct r (rows.map fun s => (s, [])) := by
    intro rows
    have hmembers : (Group.evaluate vs [] [(v, .apply start distinct r)] 0 ∘
        fun q => ⟨q, .ofList (rows.filter fun s => Group.keyOf vs s = q)⟩) =
          groupSolution vs v start distinct r (rows.map fun s => (s, [])) := by
      funext q
      rw [Function.comp_apply, Group.evaluate_single hroot, groupSolution, List.filter_map, List.map_map]
      rfl
    rw [Group.ofRows_eq, List.mapM_map, hmembers, groupSolutions, List.map_map]
    exact congrArg (fun keyed => (Group.keys vs keyed).mapM _) (List.map_id' rows).symm
  simp only [hgroups]

/-- Grouping by variables with one aggregate over an expression that cannot be compiled. -/
theorem group_of_not_ready (hstart : f.start? = some start) {x : QueryError} (hx : e.ready c.compiler = .error x)
    (inner : Plan) (source : Flow Solution) :
    group vs [(v, .apply f distinct e)] inner c source = inner c source >>= fun _ => throw x := by
  have hready := Aggregate.ready_apply hstart distinct e c.compiler
  rw [hx, Except.map] at hready
  simp only [group, applyGroup, List.mapM_cons, hready]
  rfl

/-- Grouping by other variables with one aggregate over a variable that is bound to the value of an expression. -/
theorem run_collect_group_bound (hstart : f.start? = some start) (hsteady : e.isSteady = true)
    (hsingle : e.isCustomCall = false) (hr : e.ready c.compiler = .ok r) (hk : k ∉ vs) (tests : List Plan)
    (inner : Plan) (source : Flow Solution) (st : Store)
    (hfree : ∀ found, ((collectTested c tests inner source).run st).1 = .ok found → ∀ x ∈ found, x.1.get? k = none) :
    (group vs [(v, .apply f distinct (.var k))] (extend k e tests inner) c source >>= collect).run st =
      (((collectTested c tests inner source).run st).1 >>= groupSolutions vs v start distinct r,
        ((collectTested c tests inner source).run st).2) := by
  rw [run_collect_group (r := ⟨.var k, 0, 0⟩) hstart rfl rfl,
    run_collect_extend_of_free hsteady hsingle hr tests inner source st hfree]
  rcases h : (collectTested c tests inner source).run st with ⟨x | found, t⟩
  · rfl
  · have hbound : ∀ x ∈ found, x.1.get? k = none := hfree found (by rw [h])
    have hkey : ∀ x ∈ found, Group.keyOf vs (x.1.assign k (valueOf r x)) = Group.keyOf vs x.1 := fun x hx =>
      List.map_congr_left fun w hw => Solution.get?_assign_of_ne (hbound x hx) (ne_of_mem_of_not_mem hw hk)
    have hvalue : ∀ x ∈ found, valueOf ⟨.var k, 0, 0⟩ (x.1.assign k (valueOf r x), []) = valueOf r x := by
      intro x hx
      rw [valueOf, Compiled.term?]
      exact Solution.get?_assign_self (hbound x hx)
    have hgroups : groupSolutions vs v start distinct ⟨.var k, 0, 0⟩
        (found.map fun x => (x.1.assign k (valueOf r x), [])) = groupSolutions vs v start distinct r found :=
      groupSolutions_map hkey hvalue
    refine Prod.ext (Eq.trans ?_ hgroups) rfl
    exact congrArg (groupSolutions vs v start distinct ⟨.var k, 0, 0⟩) List.map_map

/-- Grouping with an aggregate over an expression aggregates its values without any answers. Binding a variable to the
expression and grouping with the aggregate over the variable aggregates the values with the answers to the tests.
Without tests these are the same, failures included; with tests they are the same just if an aggregate fails either
way, or if the answers do not matter for what becomes of any group. -/
theorem group_agrees_with_extend (hstart : f.start? = some start) (hsteady : e.isSteady = true)
    (hsingle : e.isCustomCall = false) (hk : k ∉ vs) (distinct : Bool) (v : Variable) (inner : Plan) (c : Scope)
    (source : Flow Solution) (st : Store) :
    let plain := (inner c source >>= collect).run st
    let tested := (collectTested c e.tests inner source).run st
    let ofValue := (group vs [(v, .apply f distinct e)] inner c source >>= collect).run st
    let ofVariable :=
      (group vs [(v, .apply f distinct (.var k))] (extend k e e.tests inner) c source >>= collect).run st
    (∀ x, e.ready c.compiler = .error x → ofValue = ofVariable) ∧
    ∀ r, e.ready c.compiler = .ok r → (∀ found, tested.1 = .ok found → ∀ x ∈ found, x.1.get? k = none) →
      let alone := fun found => groupSolution vs v start distinct r (found.map fun x => (x.1, []))
      let answered := groupSolution vs v start distinct r
      let fails := fun (g : List (Option Term) → Except QueryError Solution) qs => ∃ q ∈ qs, g q = .error (.aggregate v)
      ofValue = (plain.1 >>= fun rows => groupSolutions vs v start distinct r (rows.map fun s => (s, [])), plain.2) ∧
      ofVariable = (tested.1 >>= groupSolutions vs v start distinct r, tested.2) ∧
      (e.tests = [] → ofValue = ofVariable) ∧
      ∀ found, tested.1 = .ok found → plain.1 = .ok (found.map (·.1)) →
        let keys := Group.keys vs (found.map (·.1))
        ofValue.1 = ofVariable.1 ↔
          fails (alone found) keys ∧ fails (answered found) keys ∨ ∀ q ∈ keys, alone found q = answered found q := by
  intro plain tested ofValue ofVariable
  refine ⟨fun x hx => ?_, fun r hr hfree => ?_⟩
  · -- Either way the plan is refused once its input is built.
    have hplan : group vs [(v, .apply f distinct (.var k))] (extend k e e.tests inner) c source =
        group vs [(v, .apply f distinct e)] inner c source := by
      rw [group_of_not_ready hstart hx, group, extend_of_not_ready hx, refuse_bind]
    exact congrArg (fun b : Build (Flow Solution) => (b >>= collect).run st) hplan.symm
  · intro alone answered fails
    have hvalue : ofValue =
        (plain.1 >>= fun rows => groupSolutions vs v start distinct r (rows.map fun s => (s, [])), plain.2) :=
      run_collect_group hstart hsteady hr inner source st
    have hvariable : ofVariable = (tested.1 >>= groupSolutions vs v start distinct r, tested.2) :=
      run_collect_group_bound hstart hsteady hsingle hr hk e.tests inner source st hfree
    refine ⟨hvalue, hvariable, fun hnone => ?_, fun found hfound hplain => ?_⟩
    · have htested : tested = (plain.1.map (List.map fun s => (s, [])), plain.2) := by
        rw [show tested = (collectTested c e.tests inner source).run st from rfl, hnone]
        exact run_collectTested_nil c inner source st
      rw [hvalue, hvariable, htested]
      cases plain.1 <;> rfl
    · intro keys
      have halone : ofValue.1 = keys.mapM (alone found) := by
        have hempty : (found.map (·.1)).map (fun s => (s, ([] : List Bool))) = found.map fun x => (x.1, []) :=
          List.map_map
        have hfirsts : (found.map fun x => (x.1, ([] : List Bool))).map (·.1) = found.map (·.1) := List.map_map
        have hsolutions : groupSolutions vs v start distinct r ((found.map (·.1)).map fun s => (s, [])) =
            keys.mapM (alone found) := by
          rw [hempty, groupSolutions, hfirsts]
        rw [hvalue, hplain]
        exact hsolutions
      have hanswered : ofVariable.1 = keys.mapM (answered found) := by
        rw [hvariable, hfound]
        rfl
      rw [halone, hanswered]
      exact mapM_eq_mapM_iff (fun _ _ => eq_of_groupSolution_error) fun _ _ => eq_of_groupSolution_error

/-- Of two solutions, the first one is compatible with a table and the second one is not. With the answers there are two
values to count, and without them there are none. -/
theorem group_agrees_with_extend_table :
    let x : Variable := ⟨"x"⟩
    let k : Variable := ⟨"k"⟩
    let n : Variable := ⟨"n"⟩
    let a : Term := .iri ⟨"http://example.com/a"⟩
    let b : Term := .iri ⟨"http://example.com/b"⟩
    let count : Int → Solution := fun i => Solution.empty.insert n (.literal (.ofInt i))
    let e : Expression := .hasSolution (.values [x] [[some a]])
    let found : List (Solution × List Bool) :=
      [(Solution.empty.insert x a, [true]), (Solution.empty.insert x b, [false])]
    let inner : Plan := fun _ source => return source
    let st : Store := ⟨⟨.empty defaultGraphIri ⟨true, true⟩, [], fun _ => ⟨true, true⟩⟩, none, 0⟩
    let c : Scope := ⟨⟨.streaming, ⟨1, .structural, false⟩⟩, ⟨[], .iri ⟨"http://example.com/p"⟩⟩, .default, none⟩
    let source : Flow Solution := .ofList (found.map (·.1))
    SetFunction.count.start? = some (.count 0) ∧ e.isSteady = true ∧ e.isCustomCall = false ∧ k ∉ ([] : List Variable) ∧
      ((collectTested c e.tests inner source).run st).1 = .ok found ∧
      ((group [] [(n, .apply .count false e)] inner c source >>= collect).run st).1 = .ok [count 0] ∧
      ((group [] [(n, .apply .count false (.var k))] (extend k e e.tests inner) c source >>= collect).run st).1 =
        .ok [count 2] := by
  intro x k n a b count e found inner st c source
  have htested : ((collectTested c e.tests inner source).run st).1 = .ok found := rfl
  have hready : e.ready c.compiler = .ok ⟨.answer 0, 1, 0⟩ := rfl
  have hfree : ∀ ys, ((collectTested c e.tests inner source).run st).1 = .ok ys → ∀ y ∈ ys, y.1.get? k = none := by
    intro ys hys
    obtain rfl := Except.ok.inj (htested.symm.trans hys)
    decide
  have hplain : ((inner c source >>= collect).run st).1 = .ok (found.map (·.1)) := rfl
  have hk : k ∉ ([] : List Variable) := List.not_mem_nil
  obtain ⟨hvalue, hvariable, -⟩ :=
    (group_agrees_with_extend (f := .count) (e := e) rfl rfl rfl hk false n inner c source st).2 _ hready hfree
  have hok : ∀ {α β : Type} (x : α) (f : α → Except QueryError β), (Except.ok x >>= f) = f x := fun _ _ => rfl
  have hnone : groupSolutions [] n (.count 0) false ⟨.answer 0, 1, 0⟩ ((found.map (·.1)).map fun s => (s, [])) =
      .ok [count 0] := by decide +kernel
  have htwo : groupSolutions [] n (.count 0) false ⟨.answer 0, 1, 0⟩ found = .ok [count 2] := by decide +kernel
  refine ⟨rfl, rfl, rfl, hk, htested, ?_, ?_⟩
  · rw [hvalue, hplain, hok]
    exact hnone
  · rw [hvariable, htested, hok]
    exact htwo

end Plan

end SparqlAlgebra

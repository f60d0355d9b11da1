import SparqlAlgebra.Proofs.Plan.Collected
import SparqlAlgebra.Proofs.Plan.Sorted

/-!
# Sorting by an expression and by a variable bound to it

An extension carries out the tests of its expression for each solution before it is evaluated, and sorting does not. So
sorting by an expression is sorting by a variable bound to it as long as the expression tests nothing. Otherwise the
values that decide are those without any answers, and the two sequences are the same just if the answers do not matter
for the order of any two solutions.
-/

namespace SparqlAlgebra

namespace Plan

/-- A sort key of either direction. -/
def sortKey (descending : Bool) (e : Expression) : SortKey := if descending then .descending e else .ascending e

/-- A list sorted by values of its members. -/
def sortOn {α : Type} (descending : Bool) (f : α → Option Term) (xs : List α) : List α :=
  xs.mergeSort fun a b => compareValues descending (f a) (f b) != .gt

section SortOn

variable {α β : Type} {descending : Bool} {f g : α → Option Term}

/-- Sorting what is mapped is mapping what is sorted by the images. -/
theorem sortOn_map (h : β → α) (xs : List β) :
    sortOn descending f (xs.map h) = (sortOn descending (fun x => f (h x)) xs).map h :=
  (List.map_mergeSort (f := h) fun _ _ _ _ => rfl).symm

/-- Sorting loses no items and adds none. -/
theorem mem_sortOn {xs : List α} {x : α} : x ∈ sortOn descending f xs ↔ x ∈ xs := List.mem_mergeSort

/-- Two ways to sort agree just if they agree on each two members, taken as they come. -/
theorem sortOn_eq_iff {xs : List α} :
    sortOn descending f xs = sortOn descending g xs ↔ xs.Pairwise fun a b =>
      (compareValues descending (f a) (f b) != .gt) = (compareValues descending (g a) (g b) != .gt) :=
  mergeSort_eq_iff_pairwise (fun a b c => ne_gt_trans (f a) (f b) (f c)) (fun a b => ne_gt_total (f a) (f b))
    (fun a b c => ne_gt_trans (g a) (g b) (g c)) (fun a b => ne_gt_total (g a) (g b))

/-- Only the values that are sorted by matter. -/
theorem sortOn_congr {xs : List α} (h : ∀ x ∈ xs, f x = g x) : sortOn descending f xs = sortOn descending g xs :=
  sortOn_eq_iff.2 (List.pairwise_of_forall_mem_list fun x hx y hy => by rw [h x hx, h y hy])

end SortOn

/-- Lists whose members a function tells apart are the same if they are mapped to the same list. -/
theorem eq_of_map_eq {α β : Type} {f : α → β} {xs ys : List α} (h : ∀ x ∈ xs, ∀ y ∈ ys, f x = f y → x = y)
    (hmap : xs.map f = ys.map f) : xs = ys := by
  induction xs generalizing ys with
  | nil => exact (List.map_eq_nil_iff.1 hmap.symm).symm
  | cons x xs ih =>
    cases ys with
    | nil => cases hmap
    | cons y ys =>
      obtain ⟨hhead, htail⟩ := List.cons.inj hmap
      rw [h x List.mem_cons_self y List.mem_cons_self hhead,
        ih (fun a ha b hb => h a (List.mem_cons_of_mem x ha) b (List.mem_cons_of_mem y hb)) htail]

variable {c : Scope} {e : Expression} {r : Expression.Ready} {descending : Bool} {k : Variable}

/-- A key that cannot be compiled is an error. -/
theorem mapM_ready_of_not_ready {x : QueryError} (hx : e.ready c.compiler = .error x) :
    [sortKey descending e].mapM (SortKey.ready c.compiler) = .error x := by
  rw [List.mapM_cons]
  cases descending <;> simp [sortKey, SortKey.ready, SortKey.expression, hx]

/-- What is delivered by sorting by a single expression. -/
theorem run_collect_orderBy_single (hsteady : e.isSteady = true) (hr : e.ready c.compiler = .ok r) (inner : Plan)
    (source : Flow Solution) (st : Store) :
    (orderBy [sortKey descending e] inner c source >>= collect).run st =
      (((inner c source >>= collect).run st).1.map (sortOn descending fun s => valueOf r (s, [])),
        ((inner c source >>= collect).run st).2) := by
  have hkeys : ∀ key ∈ [sortKey descending e], key.isSteady = true := by
    intro key hkey
    rw [List.mem_singleton.1 hkey]
    cases descending <;> exact hsteady
  have hready : [sortKey descending e].mapM (SortKey.ready c.compiler) = .ok [(r, descending)] := by
    rw [List.mapM_cons, List.mapM_nil]
    cases descending <;> simp [sortKey, SortKey.ready, SortKey.expression, SortKey.isDescending, hr]
  have horder : mayPrecede [(r, descending)] = fun s t =>
      compareValues descending (valueOf r (s, [])) (valueOf r (t, [])) != .gt := by
    funext s t
    rw [mayPrecede, compareRows_cons, compareLex, compareRows_nil, Ordering.then_eq]
    rfl
  rw [run_collect_orderBy hkeys hready, horder]
  rfl

/-- What is delivered by sorting by a variable that is bound to the value of an expression: without the variable, the
solutions that have been tested, sorted by their values. -/
theorem run_collect_orderBy_bound (hsteady : e.isSteady = true) (hsingle : e.isCustomCall = false)
    (hr : e.ready c.compiler = .ok r) (tests : List Plan) (inner : Plan) (source : Flow Solution) (st : Store)
    (hfree : ∀ found, ((collectTested c tests inner source).run st).1 = .ok found → ∀ x ∈ found, x.1.get? k = none) :
    (orderBy [sortKey descending (.var k)] (extend k e tests inner) c source >>= collect).run st =
      (((collectTested c tests inner source).run st).1.map fun found =>
          (sortOn descending (valueOf r) found).map fun x => x.1.assign k (valueOf r x),
        ((collectTested c tests inner source).run st).2) := by
  rw [run_collect_orderBy_single (r := ⟨.var k, 0, 0⟩) rfl rfl,
    run_collect_extend_of_free hsteady hsingle hr tests inner source st hfree]
  rcases h : (collectTested c tests inner source).run st with ⟨x | found, t⟩
  · rfl
  · have hvalue : ∀ x ∈ found, valueOf ⟨.var k, 0, 0⟩ (x.1.assign k (valueOf r x), []) = valueOf r x := by
      intro x hx
      rw [valueOf, Compiled.term?]
      exact Solution.get?_assign_self (hfree found (by rw [h]) x hx)
    refine Prod.ext (congrArg Except.ok ?_) rfl
    rw [sortOn_map, sortOn_congr hvalue]

/-- Whether two solutions are put in the same order with the answers to the tests of an expression and without. -/
def OrderedAlike (descending : Bool) (r : Expression.Ready) (x y : Solution × List Bool) : Prop :=
  (compareValues descending (valueOf r (x.1, [])) (valueOf r (y.1, [])) != .gt) =
    (compareValues descending (valueOf r x) (valueOf r y) != .gt)

/-- Whether two tested rows are ordered alike can be computed. -/
instance (x y : Solution × List Bool) : Decidable (OrderedAlike descending r x y) := inferInstanceAs (Decidable (_ = _))

/-- If all tested rows are ordered alike by value with and without their answers, so are the rows. -/
theorem sorted_of_orderedAlike {found : List (Solution × List Bool)} (h : found.Pairwise (OrderedAlike descending r)) :
    sortOn descending (fun s => valueOf r (s, [])) (found.map (·.1)) =
      (sortOn descending (valueOf r) found).map (·.1) := by
  rw [sortOn_map]
  exact congrArg _ (sortOn_eq_iff.2 h)

/-- Solutions that are the same and differ in their answers could take each other's place. -/
theorem orderedAlike_of_sorted {found : List (Solution × List Bool)}
    (hanswered : ∀ x ∈ found, ∀ y ∈ found, x.1 = y.1 → x.2 = y.2)
    (h : sortOn descending (fun s => valueOf r (s, [])) (found.map (·.1)) =
      (sortOn descending (valueOf r) found).map (·.1)) : found.Pairwise (OrderedAlike descending r) := by
  rw [sortOn_map] at h
  refine sortOn_eq_iff.1 (eq_of_map_eq (fun x hx y hy hxy => ?_) h)
  exact Prod.ext hxy (hanswered x (mem_sortOn.1 hx) y (mem_sortOn.1 hy) hxy)

/-- Sorting by an expression delivers the solutions sorted by its values without any answers. Binding a variable to the
expression, sorting by the variable and removing it again delivers them sorted by the values with the answers to the
tests. Without tests these are the same, failures included; with tests they are the same if the answers do not matter
for the order of any two solutions and, where equal solutions have equal answers, only then. -/
theorem orderBy_agrees_with_extend (hsteady : e.isSteady = true) (hsingle : e.isCustomCall = false) (descending : Bool)
    (k : Variable) (inner : Plan) (c : Scope) (source : Flow Solution) (st : Store) :
    let plain := (inner c source >>= collect).run st
    let tested := (collectTested c e.tests inner source).run st
    let byValue := (orderBy [sortKey descending e] inner c source >>= collect).run st
    let byVariable := (orderBy [sortKey descending (.var k)] (extend k e e.tests inner) c source >>= collect).run st
    let restored := byVariable.1.map (List.map (·.erase k))
    (∀ x, e.ready c.compiler = .error x → byValue = (restored, byVariable.2)) ∧
    ∀ r, e.ready c.compiler = .ok r → (∀ found, tested.1 = .ok found → ∀ x ∈ found, x.1.get? k = none) →
      byValue = (plain.1.map (sortOn descending fun s => valueOf r (s, [])), plain.2) ∧
      restored = (tested.1.map fun found => (sortOn descending (valueOf r) found).map (·.1)) ∧ byVariable.2 = tested.2 ∧
      (e.tests = [] → byValue = (restored, byVariable.2)) ∧
      ∀ found, tested.1 = .ok found → plain.1 = .ok (found.map (·.1)) →
        (found.Pairwise (OrderedAlike descending r) → byValue.1 = restored) ∧
        ((∀ x ∈ found, ∀ y ∈ found, x.1 = y.1 → x.2 = y.2) → byValue.1 = restored →
          found.Pairwise (OrderedAlike descending r)) := by
  intro plain tested byValue byVariable restored
  refine ⟨fun x hx => ?_, fun r hr hfree => ?_⟩
  · -- Either way the plan is refused once its input is built.
    have hkey : [sortKey descending e].mapM (SortKey.ready c.compiler) = .error x := mapM_ready_of_not_ready hx
    have hvariable : orderBy [sortKey descending (.var k)] (extend k e e.tests inner) c source =
        inner c source >>= fun _ => throw x := by
      rw [orderBy, extend_of_not_ready hx, refuse_bind]
    obtain ⟨y, t, hrefused⟩ := exists_run_collect_refused (α := Solution) (inner c source) x st
    have hfails : byValue = (.error y, t) := by rw [← hrefused, ← orderBy_of_not_ready hkey]
    have hfails' : byVariable = (.error y, t) := by rw [← hrefused, ← hvariable]
    rw [hfails, show restored = byVariable.1.map (List.map (·.erase k)) from rfl, hfails']
    rfl
  · have hvalue : byValue = (plain.1.map (sortOn descending fun s => valueOf r (s, [])), plain.2) :=
      run_collect_orderBy_single hsteady hr inner source st
    have hvariable : byVariable = (tested.1.map fun found =>
        (sortOn descending (valueOf r) found).map fun x => x.1.assign k (valueOf r x), tested.2) :=
      run_collect_orderBy_bound hsteady hsingle hr e.tests inner source st hfree
    have hrestored : restored = tested.1.map fun found => (sortOn descending (valueOf r) found).map (·.1) := by
      rw [show restored = byVariable.1.map (List.map (·.erase k)) from rfl, hvariable]
      cases htested : tested.1 with
      | error x => rfl
      | ok found =>
        refine congrArg Except.ok ?_
        rw [List.map_map]
        exact List.map_congr_left fun x hx => Solution.erase_assign (hfree found htested x (mem_sortOn.1 hx))
    refine ⟨hvalue, hrestored, congrArg Prod.snd hvariable, fun hnone => ?_, fun found hfound hplain => ?_⟩
    · have htested : tested = (plain.1.map (List.map fun s => (s, [])), plain.2) := by
        rw [show tested = (collectTested c e.tests inner source).run st from rfl, hnone]
        exact run_collectTested_nil c inner source st
      rw [hvalue, hrestored, hvariable, htested]
      cases plain.1 with
      | error x => rfl
      | ok rows =>
        simp only [Except.map, sortOn_map, List.map_map]
        exact Prod.ext (congrArg Except.ok (List.map_id' _).symm) rfl
    · have hvalues : byValue.1 = .ok (sortOn descending (fun s => valueOf r (s, [])) (found.map (·.1))) := by
        rw [hvalue, hplain]
        rfl
      have hanswers : restored = .ok ((sortOn descending (valueOf r) found).map (·.1)) := by
        rw [hrestored, hfound]
        rfl
      rw [hvalues, hanswers, Except.ok.injEq]
      exact ⟨sorted_of_orderedAlike, orderedAlike_of_sorted⟩

/-- Of two solutions, the first one is compatible with a table and the second one is not. The answers put the second one
before the first, and without them both stay where they are. -/
theorem orderBy_agrees_with_extend_table :
    let x : Variable := ⟨"x"⟩
    let k : Variable := ⟨"k"⟩
    let a : Term := .iri ⟨"http://example.com/a"⟩
    let b : Term := .iri ⟨"http://example.com/b"⟩
    let e : Expression := .hasSolution (.values [x] [[some a]])
    let found : List (Solution × List Bool) :=
      [(Solution.empty.insert x a, [true]), (Solution.empty.insert x b, [false])]
    let inner : Plan := fun _ source => return source
    let st : Store := ⟨⟨.empty defaultGraphIri ⟨true, true⟩, [], fun _ => ⟨true, true⟩⟩, none, 0⟩
    let c : Scope := ⟨⟨.streaming, ⟨1, .structural, false⟩⟩, ⟨[], .iri ⟨"http://example.com/p"⟩⟩, .default, none⟩
    let source : Flow Solution := .ofList (found.map (·.1))
    e.isSteady = true ∧ e.isCustomCall = false ∧ ((collectTested c e.tests inner source).run st).1 = .ok found ∧
      ((orderBy [sortKey false e] inner c source >>= collect).run st).1 ≠
        ((orderBy [sortKey false (.var k)] (extend k e e.tests inner) c source >>= collect).run st).1.map
          (List.map (·.erase k)) := by
  intro x k a b e found inner st c source
  have htested : ((collectTested c e.tests inner source).run st).1 = .ok found := rfl
  have hready : e.ready c.compiler = .ok ⟨.answer 0, 1, 0⟩ := rfl
  have hfree : ∀ ys, ((collectTested c e.tests inner source).run st).1 = .ok ys → ∀ y ∈ ys, y.1.get? k = none := by
    intro ys hys
    obtain rfl := Except.ok.inj (htested.symm.trans hys)
    decide
  have hplain : ((inner c source >>= collect).run st).1 = .ok (found.map (·.1)) := rfl
  have hanswered : ∀ y ∈ found, ∀ z ∈ found, y.1 = z.1 → y.2 = z.2 := by decide
  have hcompared := ((orderBy_agrees_with_extend (e := e) rfl rfl false k inner c source st).2 _ hready hfree).2.2.2.2
  refine ⟨rfl, rfl, htested, fun hsame => ?_⟩
  have hpairs := (hcompared found htested hplain).2 hanswered hsame
  have halike := List.rel_of_pairwise_cons hpairs (List.mem_singleton.2 rfl)
  exact absurd halike (by decide)

end Plan

end SparqlAlgebra

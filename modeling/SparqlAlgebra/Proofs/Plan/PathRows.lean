import SparqlAlgebra.Proofs.Path.Loops
import SparqlAlgebra.Proofs.Plan.Merging
import SparqlAlgebra.Proofs.Solution.Bag

/-!
# Paths for a row and paths on their own

A path is planned with the bindings of the row at its ends. Its solutions for the row are those that it has on its own,
merged with the row, and the loop that the row closes. So a table of values may be joined with a path in either order
if and only if none of its rows closes a loop. This holds for rows that bind none of the variables that stand for blank
nodes at the ends; a row that binds one of them loses this binding wherever the path matches.
-/

namespace SparqlAlgebra

open Solution Stage Join

variable {c : Scope} {r : GraphRef} {st : Store}

namespace PathPattern

variable {ts : List Triple} {q : PathPattern} {m : Solution} {V : Multiset Solution} {v : Variable}

/-- The pattern of a path between two ends. -/
def toPattern (q : PathPattern) : Pattern := .path q.subject q.path q.object

/-- The variables that stand for blank nodes at the ends. -/
def hidden (q : PathPattern) : List Variable := HiddenVariable.ofSlots [q.subject, q.object]

/-- The loop that a row closes, without these variables. -/
def shownLoop? (ts : List Triple) (q : PathPattern) (m : Solution) : Option Solution :=
  (q.hide.loop? ts m).map (HiddenVariable.hide q.hidden)

/-- What a path has for each of some rows: the bindings are filled in at the ends, the solutions are merged with them,
and the blank nodes are hidden. -/
def rows (ts : List Triple) (q : PathPattern) : Rows := fun V =>
  (V.bind fun s => ((q.hide.bind s).solutionsIn ts).filterMap s.merge?).map (HiddenVariable.hide q.hidden)

/-- The rows of a path are those of each row of the bag. -/
theorem rows_eq_bind (ts : List Triple) (q : PathPattern) (V : Multiset Solution) :
    q.rows ts V = V.bind fun s => q.rows ts {s} := by
  simp only [rows, Multiset.map_bind, Multiset.singleton_bind]

/-- A row that binds nothing closes no loop. -/
theorem loop?_empty (ts : List Triple) (q : PathPattern) : q.loop? ts .empty = none := by
  unfold loop?
  split <;> rfl

/-- For the empty row they are the solutions of the path, without the variables that stand for blank nodes. -/
theorem rows_empty (ts : List Triple) (q : PathPattern) :
    q.rows ts {Solution.empty} = (q.hide.solutionsIn ts).map (HiddenVariable.hide q.hidden) := by
  have hmerge : (Solution.empty.merge? : Solution → Option Solution) = some := funext empty_merge?
  rw [rows, Multiset.singleton_bind, filterMap_solutionsIn_bind, loop?_empty, hmerge, Multiset.filterMap_some]
  simp

/-- The solutions for a row are those on their own, merged with the row, and the loop that the row closes. -/
theorem rows_single (hm : ∀ v ∈ q.hidden, m.get? v = none) :
    q.rows ts {m} = (q.rows ts {Solution.empty}).filterMap m.merge? + (q.shownLoop? ts m).toList := by
  rw [rows_empty, rows, Multiset.singleton_bind, filterMap_solutionsIn_bind, Multiset.map_add, filterMap_map_hide hm,
    shownLoop?]
  cases q.hide.loop? ts m <;> rfl

/-- A binding of a variable that stands for a blank node is lost. -/
theorem rows_single_eq_iff_of_binds (hv : v ∈ q.hidden) (hm : m.binds v = true) :
    q.rows ts {m} = (q.rows ts {Solution.empty}).filterMap m.merge? ↔
      q.rows ts {m} = 0 ∧ (q.rows ts {Solution.empty}).filterMap m.merge? = 0 := by
  refine ⟨fun heq => ?_, fun h => h.1.trans h.2.symm⟩
  have hnone : q.rows ts {m} = 0 := by
    refine Multiset.eq_zero_of_forall_notMem fun s hs => ?_
    obtain ⟨u, -, rfl⟩ := Multiset.mem_map.1 hs
    rw [heq] at hs
    obtain ⟨w, -, hw⟩ := (Multiset.mem_filterMap _ _).1 hs
    have hbinds := (extends_of_merge? hw).1.binds hm
    simp [binds, hv] at hbinds
  exact ⟨hnone, heq ▸ hnone⟩

/-- For several rows these are the joins, and the loop of each row that closes one. -/
theorem rows_eq_join_add (hV : ∀ s ∈ V, ∀ v ∈ q.hidden, s.get? v = none) :
    q.rows ts V = join V (q.rows ts {Solution.empty}) + V.filterMap (q.shownLoop? ts) := by
  have hloops : V.filterMap (q.shownLoop? ts) = V.bind fun s => ((q.shownLoop? ts s).toList : Multiset Solution) := by
    rw [Multiset.filterMap_eq_bind]
    refine Multiset.bind_congr fun s _ => ?_
    cases q.shownLoop? ts s <;> rfl
  rw [rows_eq_bind, hloops, join, ← Multiset.bind_add]
  exact Multiset.bind_congr fun s hs => rows_single (hV s hs)

end PathPattern

namespace Pattern

/-- A path, handed a row that binds no variable of its blank nodes, has the solutions that it has on its own, merged
with the row, and the loop that the row closes; so it has no others if and only if the row closes none. A row that binds
such a variable agrees with the merges only where there is nothing at all. Joined in either order with a table whose
rows leave these variables alone, a path has the same solutions but for the loops of the rows. -/
theorem path_joins_row_iff (q : PathPattern) (hr : c.activeGraph? st.dataset = .ok (some r)) :
    ∃ table : List Solution, q.toPattern.solve c st .empty = .ok table ∧
      (∀ m, ∃ rows : List Solution, q.toPattern.solve c st m = .ok rows ∧
        ((∀ v ∈ q.hidden, m.get? v = none) →
          rows.Perm (table.filterMap m.merge? ++ (q.shownLoop? (r.triples st.dataset) m).toList) ∧
          (rows.Perm (table.filterMap m.merge?) ↔ q.shownLoop? (r.triples st.dataset) m = none)) ∧
        ((∃ v ∈ q.hidden, m.binds v = true) →
          (rows.Perm (table.filterMap m.merge?) ↔ rows = [] ∧ table.filterMap m.merge? = []))) ∧
      ∀ (vs : List Variable) (values : List (List (Option Term))), ∃ first last : List Solution,
        (Pattern.join (.values vs values) q.toPattern).solve c st .empty = .ok first ∧
        (Pattern.join q.toPattern (.values vs values)).solve c st .empty = .ok last ∧
        ((∀ s ∈ values.map (Plan.rowSolution vs), ∀ v ∈ q.hidden, s.get? v = none) →
          first.Perm (last ++ (values.map (Plan.rowSolution vs)).filterMap (q.shownLoop? (r.triples st.dataset))) ∧
          (first.Perm last ↔
            ∀ s ∈ values.map (Plan.rowSolution vs), q.shownLoop? (r.triples st.dataset) s = none)) := by
  let P : Store → Prop := fun s => s.dataset = st.dataset
  have hst : P st := rfl
  have hpath : Plan.Means P False c q.toPattern.plan (q.rows (r.triples st.dataset)) := by
    rw [PathPattern.toPattern, plan]
    exact Plan.means_path_of_activeGraph? (fun _ hs => hs) q hr
  obtain ⟨table, htable, tableQ⟩ := exists_solve hpath hst .empty
  refine ⟨table, htable, fun m => ?_, fun vs values => ?_⟩
  · obtain ⟨rows, hrows, rowsQ⟩ := exists_solve hpath hst m
    have hmerges : rows.Perm (table.filterMap m.merge?) ↔
        q.rows (r.triples st.dataset) {m} =
          (q.rows (r.triples st.dataset) {Solution.empty}).filterMap m.merge? := by
      rw [← Multiset.coe_eq_coe, ← Multiset.filterMap_coe, rowsQ, tableQ]
    refine ⟨rows, hrows, fun hm => ⟨?_, ?_⟩, fun ⟨v, hv, hbinds⟩ => ?_⟩
    · rw [← Multiset.coe_eq_coe, ← Multiset.coe_add, ← Multiset.filterMap_coe, rowsQ, tableQ]
      exact PathPattern.rows_single hm
    · rw [hmerges, PathPattern.rows_single hm, add_toList_eq_iff]
    · rw [hmerges, PathPattern.rows_single_eq_iff_of_binds hv hbinds, ← rowsQ, ← tableQ, Multiset.filterMap_coe,
        Multiset.coe_eq_zero, Multiset.coe_eq_zero]
  · have hvalues : Plan.Means P False c (Pattern.values vs values).plan (Rows.values vs values) := by
      rw [plan]
      exact Plan.means_values vs values
    have hfirst : Plan.Means P False c (Pattern.join (.values vs values) q.toPattern).plan
        fun V => q.rows (r.triples st.dataset) (Rows.values vs values V) := by
      rw [plan]
      exact Plan.means_join hvalues .any hpath
    have hlast : Plan.Means P False c (Pattern.join q.toPattern (.values vs values)).plan
        fun V => Rows.values vs values (q.rows (r.triples st.dataset) V) := by
      rw [plan]
      exact Plan.means_join hpath .any hvalues
    obtain ⟨first, hsolved, firstQ⟩ := exists_solve hfirst hst .empty
    obtain ⟨last, hsolved', lastQ⟩ := exists_solve hlast hst .empty
    refine ⟨first, last, hsolved, hsolved', fun hfree => ?_⟩
    have hsum : (first : Multiset Solution) = last +
        ((values.map (Plan.rowSolution vs)).filterMap (q.shownLoop? (r.triples st.dataset)) : List Solution) := by
      rw [firstQ, lastQ, ← Multiset.filterMap_coe, Rows.values, Rows.values, empty_join,
        PathPattern.rows_eq_join_add hfree, join_comm]
    refine ⟨?_, ?_⟩
    · rw [← Multiset.coe_eq_coe, ← Multiset.coe_add, hsum]
    · rw [← Multiset.coe_eq_coe, hsum, add_eq_left, Multiset.coe_eq_zero, List.filterMap_eq_nil_iff]

/-- A path of any number of steps in an empty graph: it has no solutions on its own, but a row that binds one of its
ends closes a loop. -/
theorem path_joins_row_iff_loop :
    let knows : Iri := ⟨"http://example.com/knows"⟩
    let x : Variable := ⟨"x"⟩
    let y : Variable := ⟨"y"⟩
    let alice : Term := .iri ⟨"http://example.com/a"⟩
    let st : Store := ⟨⟨.empty defaultGraphIri ⟨true, true⟩, [], fun _ => ⟨true, true⟩⟩, none, 0⟩
    let c : Scope := ⟨⟨.streaming, ⟨2, .structural, true⟩⟩, ⟨[], .iri knows⟩, .default, none⟩
    let q : PathPattern := ⟨.var x, .zeroOrMore (.iri knows), .var y⟩
    let m : Solution := Solution.empty.insert x alice
    c.activeGraph? st.dataset = .ok (some (.single .default)) ∧ (∀ v ∈ q.hidden, m.get? v = none) ∧
      q.toPattern.solve c st .empty = .ok [] ∧ q.toPattern.solve c st m = .ok [m.insert y alice] ∧
      q.shownLoop? (GraphRef.triples st.dataset (.single .default)) m ≠ none := by
  intro knows x y alice st c q m
  have hr : c.activeGraph? st.dataset = .ok (some (.single .default)) := rfl
  have hm : ∀ v ∈ q.hidden, m.get? v = none := by decide
  have hempty : q.toPattern.solve c st .empty = .ok [] := by decide +kernel
  have hfound : q.toPattern.solve c st m = .ok [m.insert y alice] := by decide +kernel
  obtain ⟨table, htable, heach, -⟩ := path_joins_row_iff q hr
  obtain ⟨rows, hrows, hfree, -⟩ := heach m
  rw [hempty] at htable
  rw [hfound] at hrows
  cases htable
  cases hrows
  exact ⟨hr, hm, hempty, hfound, fun hloop => by simpa using (hfree hm).2.2 hloop⟩

end Pattern

end SparqlAlgebra

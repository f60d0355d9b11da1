import SparqlAlgebra.Proofs.Algebra.Rows
import SparqlAlgebra.Proofs.Plan.Build

/-!
# Graphs that the rows name

A pattern in a graph that is named by a variable is evaluated in one of two ways. Going through the graphs treats every
row on its own: it is joined with the pattern in each graph that can be seen and that it does not exclude. Resolving the
graph in each leaf does the same, provided that a projection shows the variable of every leaf in it, and that the leaves
bind the variable where a row does not name a graph that can be seen.
-/

namespace SparqlAlgebra

open Solution Stage Join

namespace Solution

/-- Joins with the parts of a bag are the parts of the join. -/
theorem bind_join {α : Type} (A : Multiset α) (f : α → Multiset Solution) (B : Multiset Solution) :
    join (A.bind f) B = A.bind fun a => join (f a) B :=
  Multiset.bind_assoc

/-- Joins with the parts of a bag on the right are the parts of the join. -/
theorem join_bind {α : Type} (A : Multiset Solution) (B : Multiset α) (f : α → Multiset Solution) :
    join A (B.bind f) = B.bind fun b => join A (f b) := by
  simp only [join_comm A]
  exact bind_join B f A

/-- A join is made of the joins of each solution. -/
theorem bind_singleton_join (A B : Multiset Solution) : (A.bind fun s => join {s} B) = join A B := by
  simp only [singleton_join]
  rfl

/-- Binding a variable to the term that it has changes nothing. -/
theorem insert_of_get? {s : Solution} {v : Variable} {t : Term} (h : s.get? v = some t) : s.insert v t = s := by
  refine ext_get? fun w => ?_
  rw [get?_insert]
  split
  · rename_i hw
    rw [hw, h]
  · rfl

/-- A merge with a single binding binds the variable to that term. -/
theorem get?_of_merge?_single {s m : Solution} {v : Variable} {t : Term}
    (h : s.merge? (Solution.empty.insert v t) = some m) : m.get? v = some t :=
  (extends_of_merge? h).2 v t (by simp)

/-- A variable that is shown may be joined with a term before or after the other variables are dropped. -/
theorem join_map_project_single {v : Variable} {vs : List Variable} (hv : v ∈ vs) (A : Multiset Solution) (t : Term) :
    join (A.map (·.project vs)) {Solution.empty.insert v t} =
      (join A {Solution.empty.insert v t}).map (·.project vs) := by
  have hmerge : ∀ s : Solution, (s.project vs).merge? (Solution.empty.insert v t) =
      (s.merge? (Solution.empty.insert v t)).map (·.project vs) := by
    intro s
    rw [merge?_single, merge?_single, get?_project, if_pos hv]
    cases s.get? v with
    | none =>
      refine congrArg some (ext_get? fun w => ?_)
      simp only [get?_insert, get?_project]
      by_cases hw : w = v
      · subst hw
        simp [hv]
      · simp [hw]
    | some u => by_cases hu : u = t <;> simp [hu]
  rw [join_comm, singleton_join, join_comm A, singleton_join, Multiset.filterMap_map, Multiset.map_filterMap]
  refine filterMap_congr fun s _ => ?_
  rw [Function.comp_apply, merge?_comm, hmerge, merge?_comm]

end Solution

namespace Scope

variable (c : Scope) (d : Dataset) (v : Variable)

/-- For each named graph that can be seen the solution that binds the variable to it. -/
def graphRows : Multiset Solution := (c.namedGraphs d : Multiset Iri).map fun iri => Solution.empty.insert v (.iri iri)

/-- A row names a graph that can be seen. -/
def NamesGraph (s : Solution) : Prop := ∃ iri, c.canSee d iri = true ∧ s.get? v = some (.iri iri)

/-- The graphs that can be seen and that a row does not exclude. -/
def rowGraphs (s : Solution) : List Iri :=
  match s.get? v with
  | none => c.namedGraphs d
  | some (.iri iri) => if c.canSee d iri then [iri] else []
  | some _ => []

/-- What a row finds in the graph that it names. -/
def inNamed (f : Iri → Solution → Multiset Solution) (s : Solution) : Multiset Solution :=
  match s.get? v with
  | some (.iri iri) => f iri s
  | _ => 0

variable {c d v} {s m : Solution} {iri : Iri}

/-- The rows at a leaf are the solutions that are found in the graphs that the active one stands for. -/
theorem leafRows_bgp (active : ActiveGraph) (ps : List TriplePattern) (s : Solution) :
    (c.leafRows d).bgp active ps s = c.find d (fun r => r.bgpRows d ps) s active := rfl

/-- A row that names a graph is evaluated in that graph. -/
theorem inNamed_of_get? {f : Iri → Solution → Multiset Solution} (h : s.get? v = some (.iri iri)) :
    inNamed v f s = f iri s := by
  rw [inNamed, h]

/-- Joining rows with the names of the graphs takes one graph after the other. -/
theorem join_graphRows_eq_bind (A : Multiset Solution) : join A (c.graphRows d v) =
    (c.namedGraphs d : Multiset Iri).bind fun iri => join A {Solution.empty.insert v (.iri iri)} := by
  rw [graphRows, ← Multiset.bind_singleton, join_bind]

/-- A projection that shows the graph can be done before the names of the graphs are joined or after that. -/
theorem join_map_project_graphRows {vs : List Variable} (hv : v ∈ vs) (A : Multiset Solution) :
    join (A.map (·.project vs)) (c.graphRows d v) = (join A (c.graphRows d v)).map (·.project vs) := by
  simp only [join_graphRows_eq_bind, Multiset.map_bind, join_map_project_single hv]

/-- Of a list without repetitions at most one item is picked. -/
theorem filterMap_eq_of_nodup {α : Type} {iris : List Iri} (x : α) (h : iris.Nodup) :
    iris.filterMap (fun i => if iri = i then some x else none) = if iri ∈ iris then [x] else [] := by
  induction iris with
  | nil => rfl
  | cons i iris ih =>
    obtain ⟨hi, hrest⟩ := List.nodup_cons.1 h
    rw [List.filterMap_cons, ih hrest]
    by_cases he : iri = i
    · subst he
      simp [hi]
    · simp [he]

/-- A row is extended by the graphs that it does not exclude. -/
theorem singleton_join_graphRows (hn : (c.namedGraphs d).Nodup) (s : Solution) :
    join {s} (c.graphRows d v) = (c.rowGraphs d v s : Multiset Iri).map fun iri => s.insert v (.iri iri) := by
  rw [singleton_join, graphRows, Multiset.filterMap_map, Multiset.filterMap_coe, Multiset.map_coe, rowGraphs]
  refine congrArg _ ?_
  cases h : s.get? v with
  | none =>
    rw [← List.filterMap_eq_map]
    refine List.filterMap_congr fun iri _ => ?_
    rw [Function.comp_apply, merge?_single, h]
    rfl
  | some t =>
    have hmerge : ∀ i : Iri, s.merge? (Solution.empty.insert v (.iri i)) = if t = .iri i then some s else none := by
      intro i
      rw [merge?_single, h]
    simp only [Function.comp_def, hmerge]
    cases t with
    | iri iri =>
      have hsee : iri ∈ c.namedGraphs d ↔ c.canSee d iri = true := mem_namedGraphs_iff
      simp only [Term.iri.injEq, filterMap_eq_of_nodup s hn, hsee]
      split
      · rw [List.map_singleton, insert_of_get? h]
      · rfl
    | blank b => simp
    | literal l => simp

/-- The graphs of a row can be seen. -/
theorem canSee_of_mem_rowGraphs (h : iri ∈ c.rowGraphs d v s) : c.canSee d iri = true := by
  unfold rowGraphs at h
  split at h
  · exact mem_namedGraphs_iff.1 h
  · split at h
    · rename_i hsee
      rwa [List.mem_singleton.1 h]
    · simp at h
  · simp at h

/-- Rows that name graphs that can be seen stay as they are. -/
theorem join_graphRows_of_namesGraph (hn : (c.namedGraphs d).Nodup) {V : Multiset Solution}
    (h : ∀ s ∈ V, c.NamesGraph d v s) : join V (c.graphRows d v) = V := by
  have hsingle : ∀ s ∈ V, join {s} (c.graphRows d v) = {s} := by
    intro s hs
    obtain ⟨iri, hsee, hiri⟩ := h s hs
    rw [singleton_join_graphRows hn, rowGraphs, hiri]
    simp [hsee, insert_of_get? hiri]
  rw [← bind_singleton_join, Multiset.bind_congr hsingle, Multiset.bind_singleton, Multiset.map_id']

/-- All of these rows name the graph that they are extended by. -/
theorem namesGraph_of_mem_join_graphRows {V : Multiset Solution} (h : m ∈ join V (c.graphRows d v)) :
    c.NamesGraph d v m := by
  obtain ⟨s, -, x, hx, hm⟩ := mem_join.1 h
  obtain ⟨iri, hiri, rfl⟩ := Multiset.mem_map.1 hx
  exact ⟨iri, mem_namedGraphs_iff.1 hiri, get?_of_merge?_single hm⟩

/-- In the graph that a row names, or in every graph, it finds what its extensions find in theirs. -/
theorem find_bound (hn : (c.namedGraphs d).Nodup) (f : GraphRef → Solution → Multiset Solution) (s : Solution) :
    c.find d f s (.bound v) =
      (join {s} (c.graphRows d v)).bind (inNamed v fun iri => f (.single (.named iri))) := by
  have hnamed : ∀ iri, inNamed v (fun iri => f (.single (.named iri))) (s.insert v (.iri iri)) =
      f (.single (.named iri)) (s.insert v (.iri iri)) := fun iri => inNamed_of_get? (by simp)
  rw [singleton_join_graphRows hn, Multiset.bind_map, rowGraphs, find]
  simp only [hnamed]
  cases h : s.get? v with
  | none => rfl
  | some t =>
    cases t with
    | iri iri =>
      dsimp only
      split
      · simp [insert_of_get? h]
      · rfl
    | blank b => rfl
    | literal l => rfl

end Scope

namespace Pattern

/-- The patterns made of triples without searches, tables, joins, unions and projections. -/
inductive Positive : Pattern → Prop
  | bgp {ps : List TriplePattern} : (∀ p ∈ ps, SearchPlan.isSearchTriple p = false) → Positive (.bgp ps)
  | values {vs : List Variable} {rows : List (List (Option Term))} : Positive (.values vs rows)
  | join {a b : Pattern} : Positive a → Positive b → Positive (.join a b)
  | union {a b : Pattern} : Positive a → Positive b → Positive (.union a b)
  | project {inner : Pattern} {vs : List Variable} : Positive inner → Positive (.project inner vs)

/-- Whether triples are looked up somewhere. -/
def looksUp : Pattern → Bool
  | .bgp _ => true
  | .join a b => a.looksUp || b.looksUp
  | .union a b => a.looksUp || b.looksUp
  | .project inner _ => inner.looksUp
  | _ => false

/-- No leaf hides the variable, and every projection over a leaf shows it. -/
inductive Shows (v : Variable) : Pattern → Prop
  | bgp {ps : List TriplePattern} : v ∉ HiddenVariable.ofPatterns ps → Shows v (.bgp ps)
  | values {vs : List Variable} {rows : List (List (Option Term))} : Shows v (.values vs rows)
  | join {a b : Pattern} : Shows v a → Shows v b → Shows v (.join a b)
  | union {a b : Pattern} : Shows v a → Shows v b → Shows v (.union a b)
  | project {inner : Pattern} {vs : List Variable} : v ∈ vs → Shows v inner → Shows v (.project inner vs)
  | closed {inner : Pattern} {vs : List Variable} : inner.looksUp = false → Shows v (.project inner vs)

/-- Every solution binds the variable to a graph that can be seen. -/
inductive Resolves (c : Scope) (d : Dataset) (v : Variable) : Pattern → Prop
  | bgp {ps : List TriplePattern} : Resolves c d v (.bgp ps)
  | values {vs : List Variable} {rows : List (List (Option Term))} :
      (∀ row ∈ rows, c.NamesGraph d v (Plan.rowSolution vs row)) → Resolves c d v (.values vs rows)
  | left {a b : Pattern} : Resolves c d v a → Resolves c d v (.join a b)
  | right {a b : Pattern} : Resolves c d v b → Resolves c d v (.join a b)
  | union {a b : Pattern} : Resolves c d v a → Resolves c d v b → Resolves c d v (.union a b)
  | project {inner : Pattern} {vs : List Variable} :
      v ∈ vs → Resolves c d v inner → Resolves c d v (.project inner vs)

variable {c : Scope} {d : Dataset} {v : Variable} {p : Pattern} {L : LeafRows} {k : Expression.Compiler}
  {active : ActiveGraph} {s m u : Solution} {V : Multiset Solution}

/-- The parts of a positive join are positive. -/
theorem Positive.of_join {a b : Pattern} (h : (Pattern.join a b).Positive) : a.Positive ∧ b.Positive := by
  cases h with
  | join ha hb => exact ⟨ha, hb⟩

/-- The parts of a positive union are positive. -/
theorem Positive.of_union {a b : Pattern} (h : (Pattern.union a b).Positive) : a.Positive ∧ b.Positive := by
  cases h with
  | union ha hb => exact ⟨ha, hb⟩

/-- What a positive projection projects is positive. -/
theorem Positive.of_project {inner : Pattern} {vs : List Variable} (h : (Pattern.project inner vs).Positive) :
    inner.Positive := by
  cases h with
  | project hi => exact hi

/-- If a join shows a variable, both parts do. -/
theorem Shows.of_join {a b : Pattern} (h : (Pattern.join a b).Shows v) : a.Shows v ∧ b.Shows v := by
  cases h with
  | join ha hb => exact ⟨ha, hb⟩

/-- If a union shows it, both parts do. -/
theorem Shows.of_union {a b : Pattern} (h : (Pattern.union a b).Shows v) : a.Shows v ∧ b.Shows v := by
  cases h with
  | union ha hb => exact ⟨ha, hb⟩

/-- Each row is treated on its own. -/
theorem Positive.rows_bind (h : p.Positive) (L : LeafRows) (k : Expression.Compiler) (active : ActiveGraph)
    (V : Multiset Solution) : p.rows L k active V = V.bind fun s => p.rows L k active {s} := by
  induction h generalizing V active with
  | bgp _ =>
    simp only [rows_bgp, Multiset.singleton_bind]
    rw [Multiset.map_bind]
  | values =>
    simp only [rows_values, Rows.values, singleton_join]
    rfl
  | @join a b _ _ iha ihb =>
    have hb := fun s => ihb active (a.rows L k active {s})
    simp only [rows_join, hb]
    rw [ihb, iha, Multiset.bind_assoc]
  | union _ _ _ _ =>
    simp only [rows_union, Rows.union, Multiset.singleton_bind]
  | project _ _ =>
    simp only [rows_project, Rows.project, singleton_join]
    rfl

/-- The rows of a union of positive patterns are those of both parts. -/
theorem Positive.rows_union_eq_add {a b : Pattern} (ha : a.Positive) (hb : b.Positive) :
    (Pattern.union a b).rows L k active V = a.rows L k active V + b.rows L k active V := by
  rw [ha.rows_bind, hb.rows_bind, rows_union, Rows.union, Multiset.bind_add]

/-- Without look-ups the active graph does not matter. -/
theorem Positive.rows_of_not_looksUp (h : p.Positive) (hl : p.looksUp = false) (active active' : ActiveGraph) :
    p.rows L k active = p.rows L k active' := by
  induction h with
  | bgp _ => simp [looksUp] at hl
  | values => simp only [rows_values]
  | join _ _ iha ihb =>
    rw [looksUp, Bool.or_eq_false_iff] at hl
    simp only [rows_join, iha hl.1, ihb hl.2]
  | union _ _ iha ihb =>
    rw [looksUp, Bool.or_eq_false_iff] at hl
    simp only [rows_union, iha hl.1, ihb hl.2]
  | project _ ih =>
    rw [looksUp] at hl
    simp only [rows_project, ih hl]

/-- What a row finds extends it. -/
theorem extends_of_mem_find {ps : List TriplePattern}
    (h : u ∈ c.find d (fun r => r.bgpRows d ps) s active) : Extends u s := by
  have hrow : ∀ {r : GraphRef} {m}, u ∈ r.bgpRows d ps m → Extends u m := by
    intro r m hu
    obtain ⟨x, -, hx⟩ := (Multiset.mem_filterMap _ _).1 hu
    exact (extends_of_merge? hx).1
  cases active with
  | default => exact hrow h
  | named iri => exact hrow h
  | union iris => exact hrow h
  | bound w =>
    rw [Scope.find] at h
    cases hw : s.get? w with
    | none =>
      rw [hw] at h
      obtain ⟨iri, -, hu⟩ := Multiset.mem_bind.1 h
      refine Extends.trans (hrow hu) fun x t hx => ?_
      have hne : x ≠ w := by
        rintro rfl
        simp [hw] at hx
      simpa [hne] using hx
    | some t =>
      rw [hw] at h
      cases t with
      | iri iri =>
        dsimp only at h
        split at h
        · exact hrow h
        · simp at h
      | blank b => simp at h
      | literal l => simp at h

/-- A row keeps its graph. -/
theorem Shows.get?_of_mem_rows {t : Term} (h : p.Shows v) (hp : p.Positive)
    (hu : u ∈ p.rows (c.leafRows d) k active {m}) (hm : m.get? v = some t) : u.get? v = some t := by
  induction h generalizing m u with
  | bgp hv =>
    simp only [rows_bgp, Multiset.singleton_bind] at hu
    obtain ⟨w, hw, rfl⟩ := Multiset.mem_map.1 hu
    rw [HiddenVariable.get?_hide, if_neg hv]
    exact extends_of_mem_find hw v t hm
  | values =>
    rw [rows_values, Rows.values, singleton_join] at hu
    obtain ⟨x, -, hx⟩ := (Multiset.mem_filterMap _ _).1 hu
    exact (extends_of_merge? hx).1 v t hm
  | join _ _ iha ihb =>
    obtain ⟨ha, hb⟩ := hp.of_join
    simp only [rows_join] at hu
    rw [hb.rows_bind] at hu
    obtain ⟨w, hw, hu⟩ := Multiset.mem_bind.1 hu
    exact ihb hb hu (iha ha hw hm)
  | union _ _ iha ihb =>
    obtain ⟨ha, hb⟩ := hp.of_union
    rw [ha.rows_union_eq_add hb, Multiset.mem_add] at hu
    exact hu.elim (fun hu => iha ha hu hm) fun hu => ihb hb hu hm
  | project _ _ _ =>
    rw [rows_project, Rows.project, singleton_join] at hu
    obtain ⟨x, -, hx⟩ := (Multiset.mem_filterMap _ _).1 hu
    exact (extends_of_merge? hx).1 v t hm
  | closed _ =>
    rw [rows_project, Rows.project, singleton_join] at hu
    obtain ⟨x, -, hx⟩ := (Multiset.mem_filterMap _ _).1 hu
    exact (extends_of_merge? hx).1 v t hm

/-- Rows that name a graph that can be seen keep naming it. -/
theorem Shows.namesGraph (h : p.Shows v) (hp : p.Positive) (hm : c.NamesGraph d v m)
    (hu : u ∈ p.rows (c.leafRows d) k active {m}) : c.NamesGraph d v u := by
  obtain ⟨iri, hsee, hiri⟩ := hm
  exact ⟨iri, hsee, h.get?_of_mem_rows hp hu hiri⟩

/-- In a given graph it does not matter whether the variable is bound before or after. -/
theorem Shows.rows_join_single {iri : Iri} {t : Term} (h : p.Shows v) (hp : p.Positive) (V : Multiset Solution) :
    p.rows (c.leafRows d) k (.named iri) (Solution.join V {Solution.empty.insert v t}) =
      Solution.join (p.rows (c.leafRows d) k (.named iri) V) {Solution.empty.insert v t} := by
  induction h generalizing V with
  | @bgp ps hv =>
    have hopen : ∀ s ∈ ({Solution.empty.insert v t} : Multiset Solution), ∀ w ∈ HiddenVariable.ofPatterns ps,
        s.get? w = none := by
      intro s hs w hw
      have hne : w ≠ v := by
        rintro rfl
        exact hv hw
      rw [Multiset.mem_singleton.1 hs]
      simp [hne]
    have hfind : ∀ W : Multiset Solution,
        W.bind ((c.leafRows d).bgp (.named iri) (ps.map HiddenVariable.replace)) =
          Solution.join W (solutions ((GraphRef.single (.named iri)).tripleSet d) (ps.map HiddenVariable.replace)) :=
      fun _ => rfl
    simp only [rows_bgp, hfind]
    rw [join_right_comm, join_comm (Multiset.map _ _), HiddenVariable.join_map_hide hopen, join_comm {_}]
  | values =>
    simp only [rows_values, Rows.values]
    exact join_right_comm ..
  | join _ _ iha ihb =>
    obtain ⟨ha, hb⟩ := hp.of_join
    simp only [rows_join]
    rw [iha ha, ihb hb]
  | union _ _ iha ihb =>
    obtain ⟨ha, hb⟩ := hp.of_union
    rw [ha.rows_union_eq_add hb, ha.rows_union_eq_add hb, iha ha, ihb hb, add_join]
  | project _ _ _ =>
    simp only [rows_project, Rows.project]
    exact join_right_comm ..
  | closed _ =>
    simp only [rows_project, Rows.project]
    exact join_right_comm ..

/-- What a row finds with the graph that it names as the active one. -/
noncomputable def inRow (L : LeafRows) (k : Expression.Compiler) (v : Variable) (p : Pattern) :
    Solution → Multiset Solution :=
  Scope.inNamed v fun iri s => p.rows L k (.named iri) {s}

/-- In a row that names a graph, a pattern has the rows of this graph. -/
theorem inRow_of_get? {iri : Iri} (h : m.get? v = some (.iri iri)) :
    p.inRow L k v m = p.rows L k (.named iri) {m} :=
  Scope.inNamed_of_get? h

/-- A join in the graphs of a row goes through them with its first part, which then names the graph for the second one.
-/
theorem Positive.inRow_join {a b : Pattern} (hb : b.Positive) (ha : a.Positive) (h : a.Shows v) :
    (Pattern.join a b).inRow (c.leafRows d) k v m =
      (a.inRow (c.leafRows d) k v m).bind (b.inRow (c.leafRows d) k v) := by
  cases hm : m.get? v with
  | none => simp [inRow, Scope.inNamed, hm]
  | some t =>
    cases t with
    | iri iri =>
      have hrow : ∀ u ∈ a.rows (c.leafRows d) k (.named iri) {m},
          b.rows (c.leafRows d) k (.named iri) {u} = b.inRow (c.leafRows d) k v u :=
        fun u hu => (inRow_of_get? (h.get?_of_mem_rows ha hu hm)).symm
      rw [inRow_of_get? hm, inRow_of_get? hm]
      simp only [rows_join]
      rw [hb.rows_bind]
      exact Multiset.bind_congr hrow
    | blank b => simp [inRow, Scope.inNamed, hm]
    | literal l => simp [inRow, Scope.inNamed, hm]

/-- For leaves that do not look into the graph a row finds what it finds in the graphs that it does not exclude. -/
theorem bind_inRow_of_table {T : Multiset Solution}
    (h : ∀ iri s, p.rows L k (.named iri) {s} = Solution.join {s} T) :
    (Solution.join {m} (c.graphRows d v)).bind (p.inRow L k v) = Solution.join (Solution.join {m} T) (c.graphRows d v) := by
  rw [join_right_comm, Solution.join.eq_def (Solution.join {m} (c.graphRows d v)) T]
  refine Multiset.bind_congr fun u hu => ?_
  obtain ⟨iri, -, hiri⟩ := Scope.namesGraph_of_mem_join_graphRows hu
  rw [inRow_of_get? hiri, h, singleton_join]

/-- The extensions of a row by its graphs find only rows that name them. -/
theorem Shows.namesGraph_of_mem_bind (h : p.Shows v) (hp : p.Positive)
    (hu : u ∈ (Solution.join {m} (c.graphRows d v)).bind (p.inRow (c.leafRows d) k v)) : c.NamesGraph d v u := by
  obtain ⟨w, hw, hu⟩ := Multiset.mem_bind.1 hu
  obtain ⟨iri, hsee, hiri⟩ := Scope.namesGraph_of_mem_join_graphRows hw
  rw [inRow_of_get? hiri] at hu
  exact h.namesGraph hp ⟨iri, hsee, hiri⟩ hu

/-- A leaf resolves the graph of a row by itself: its rows are those in each graph of the row. -/
theorem rows_bound_bgp (hn : (c.namedGraphs d).Nodup) (ps : List TriplePattern) (m : Solution) :
    (Pattern.bgp ps).rows (c.leafRows d) k (.bound v) {m} =
      (Solution.join {m} (c.graphRows d v)).bind ((Pattern.bgp ps).inRow (c.leafRows d) k v) := by
  simp only [rows_bgp, Multiset.singleton_bind, Scope.leafRows_bgp]
  rw [Scope.find_bound hn, Multiset.map_bind]
  refine Multiset.bind_congr fun u hu => ?_
  obtain ⟨iri, -, hiri⟩ := Scope.namesGraph_of_mem_join_graphRows hu
  rw [inRow_of_get? hiri, Scope.inNamed_of_get? hiri]
  simp only [rows_bgp, Multiset.singleton_bind, Scope.leafRows_bgp]
  rfl

/-- A row finds in a projection over its graph what is found there from the name of the graph alone. -/
theorem Shows.bind_inRow_project {inner : Pattern} {vs : List Variable} (h : inner.Shows v) (hv : v ∈ vs)
    (hi : inner.Positive) (iri : Iri) (m : Solution) :
    (Solution.join {m} {Solution.empty.insert v (.iri iri)}).bind
        ((Pattern.project inner vs).inRow (c.leafRows d) k v) =
      Solution.join {m}
        ((inner.inRow (c.leafRows d) k v (Solution.empty.insert v (.iri iri))).map (·.project vs)) := by
  have hrow : ∀ u ∈ Solution.join {m} {Solution.empty.insert v (.iri iri)},
      (Pattern.project inner vs).inRow (c.leafRows d) k v u =
        Solution.join {u} ((inner.rows (c.leafRows d) k (.named iri) {Solution.empty}).map (·.project vs)) := by
    intro u hu
    obtain ⟨s, -, x, hx, hm⟩ := mem_join.1 hu
    obtain rfl := Multiset.mem_singleton.1 hx
    rw [inRow_of_get? (get?_of_merge?_single hm)]
    simp only [rows_project, Rows.project]
  have hname : (Solution.empty.insert v (.iri iri)).get? v = some (.iri iri) := by simp
  rw [Multiset.bind_congr hrow, bind_singleton_join, join_assoc, join_comm {_} (Multiset.map _ _),
    join_map_project_single hv, ← h.rows_join_single hi, empty_join, inRow_of_get? hname]

/-- The graphs that are looked up in each leaf, joined with those that can be seen, are the graphs of the rows. -/
theorem Shows.rows_bound_join (hn : (c.namedGraphs d).Nodup) (h : p.Shows v) (hp : p.Positive) (m : Solution) :
    Solution.join (p.rows (c.leafRows d) k (.bound v) {m}) (c.graphRows d v) =
      (Solution.join {m} (c.graphRows d v)).bind (p.inRow (c.leafRows d) k v) := by
  induction h generalizing m with
  | bgp hv =>
    rw [rows_bound_bgp hn]
    exact Scope.join_graphRows_of_namesGraph hn fun w hw => (Shows.bgp hv).namesGraph_of_mem_bind hp hw
  | values =>
    rw [bind_inRow_of_table (T := _) (fun _ _ => rfl)]
    rfl
  | @join a b hsa _ iha ihb =>
    obtain ⟨ha, hb⟩ := hp.of_join
    simp only [rows_join]
    rw [hb.rows_bind, bind_join, Multiset.bind_congr fun s _ => ihb hb s, ← Multiset.bind_assoc, bind_singleton_join,
      iha ha, Multiset.bind_assoc]
    exact Multiset.bind_congr fun u _ => (hb.inRow_join ha hsa).symm
  | @union a b _ _ iha ihb =>
    obtain ⟨ha, hb⟩ := hp.of_union
    rw [ha.rows_union_eq_add hb, add_join, iha ha, ihb hb, ← Multiset.bind_add]
    refine Multiset.bind_congr fun u hu => ?_
    obtain ⟨iri, -, hiri⟩ := Scope.namesGraph_of_mem_join_graphRows hu
    rw [inRow_of_get? hiri, inRow_of_get? hiri, inRow_of_get? hiri, ha.rows_union_eq_add hb]
  | @project inner vs hv hs ih =>
    have hi := hp.of_project
    have hrows : Solution.join (inner.rows (c.leafRows d) k (.bound v) {Solution.empty}) (c.graphRows d v) =
        (c.namedGraphs d : Multiset Iri).bind fun iri =>
          inner.inRow (c.leafRows d) k v (Solution.empty.insert v (.iri iri)) := by
      rw [ih hi, empty_join, Scope.graphRows, Multiset.bind_map]
    simp only [rows_project, Rows.project]
    rw [join_assoc, Scope.join_map_project_graphRows hv, hrows, Multiset.map_bind, join_bind,
      Scope.join_graphRows_eq_bind, Multiset.bind_assoc]
    exact Multiset.bind_congr fun iri _ => (hs.bind_inRow_project hv hi iri m).symm
  | @closed inner vs hl =>
    have hi := hp.of_project
    refine (bind_inRow_of_table fun iri s => ?_).symm
    simp only [rows_project, Rows.project]
    rw [hi.rows_of_not_looksUp hl (.named iri) (.bound v)]

/-- A pattern that looks nothing up has no leaf that could hide the variable. -/
theorem Positive.shows_of_not_looksUp (h : p.Positive) (hl : p.looksUp = false) : p.Shows v := by
  induction h with
  | bgp _ => simp [looksUp] at hl
  | values => exact .values
  | join _ _ iha ihb =>
    rw [looksUp, Bool.or_eq_false_iff] at hl
    exact .join (iha hl.1) (ihb hl.2)
  | union _ _ iha ihb =>
    rw [looksUp, Bool.or_eq_false_iff] at hl
    exact .union (iha hl.1) (ihb hl.2)
  | project _ _ => exact .closed hl

/-- The solutions of such a pattern name graphs that can be seen. -/
theorem Resolves.namesGraph (hn : (c.namedGraphs d).Nodup) (h : p.Resolves c d v) (hs : p.Shows v) (hp : p.Positive)
    (hu : u ∈ p.rows (c.leafRows d) k (.bound v) {m}) : c.NamesGraph d v u := by
  induction h generalizing m u with
  | bgp =>
    cases hs with
    | bgp hv =>
      rw [rows_bound_bgp hn] at hu
      exact (Shows.bgp hv).namesGraph_of_mem_bind hp hu
  | values ht =>
    rw [rows_values, Rows.values, singleton_join] at hu
    obtain ⟨x, hx, hm⟩ := (Multiset.mem_filterMap _ _).1 hu
    obtain ⟨row, hrow, rfl⟩ := List.mem_map.1 (Multiset.mem_coe.1 hx)
    obtain ⟨iri, hsee, hiri⟩ := ht row hrow
    exact ⟨iri, hsee, (extends_of_merge? hm).2 v _ hiri⟩
  | left _ ih =>
    obtain ⟨ha, hb⟩ := hp.of_join
    obtain ⟨hsa, hsb⟩ := hs.of_join
    simp only [rows_join] at hu
    rw [hb.rows_bind] at hu
    obtain ⟨w, hw, hu⟩ := Multiset.mem_bind.1 hu
    exact hsb.namesGraph hb (ih hsa ha hw) hu
  | right _ ih =>
    obtain ⟨ha, hb⟩ := hp.of_join
    obtain ⟨hsa, hsb⟩ := hs.of_join
    simp only [rows_join] at hu
    rw [hb.rows_bind] at hu
    obtain ⟨w, hw, hu⟩ := Multiset.mem_bind.1 hu
    exact ih hsb hb hu
  | union _ _ iha ihb =>
    obtain ⟨ha, hb⟩ := hp.of_union
    obtain ⟨hsa, hsb⟩ := hs.of_union
    rw [ha.rows_union_eq_add hb, Multiset.mem_add] at hu
    exact hu.elim (iha hsa ha) (ihb hsb hb)
  | @project inner vs hv _ ih =>
    have hi := hp.of_project
    have hsi : inner.Shows v := by
      cases hs with
      | project _ hsi => exact hsi
      | closed hl => exact hi.shows_of_not_looksUp hl
    rw [rows_project, Rows.project, singleton_join] at hu
    obtain ⟨x, hx, hm⟩ := (Multiset.mem_filterMap _ _).1 hu
    obtain ⟨w, hw, rfl⟩ := Multiset.mem_map.1 hx
    obtain ⟨iri, hsee, hiri⟩ := ih hsi hi hw
    refine ⟨iri, hsee, (extends_of_merge? hm).2 v _ ?_⟩
    rw [get?_project, if_pos hv, hiri]

/-- With the graph looked up in each leaf, a row finds what it finds in the graphs that it does not exclude. -/
theorem Shows.rows_bound (hn : (c.namedGraphs d).Nodup) (h : p.Shows v) (hp : p.Positive)
    (hm : p.Resolves c d v ∨ c.NamesGraph d v m) :
    p.rows (c.leafRows d) k (.bound v) {m} =
      (Solution.join {m} (c.graphRows d v)).bind (p.inRow (c.leafRows d) k v) := by
  have hnamed : ∀ u ∈ p.rows (c.leafRows d) k (.bound v) {m}, c.NamesGraph d v u :=
    fun u hu => hm.elim (fun hr => hr.namesGraph hn h hp hu) fun hm => h.namesGraph hp hm hu
  rw [← h.rows_bound_join hn hp, Scope.join_graphRows_of_namesGraph hn hnamed]

/-- The rows that are handed to the pattern find together what they find one by one. -/
theorem Positive.bind_join_graphRows (hp : p.Positive) (V : Multiset Solution) :
    ((c.namedGraphs d : Multiset Iri).bind fun iri =>
        p.rows (c.leafRows d) k (.named iri) (Solution.join V {Solution.empty.insert v (.iri iri)})) =
      (Solution.join V (c.graphRows d v)).bind (p.inRow (c.leafRows d) k v) := by
  rw [Scope.join_graphRows_eq_bind, Multiset.bind_assoc]
  refine Multiset.bind_congr fun iri _ => ?_
  rw [hp.rows_bind]
  refine Multiset.bind_congr fun u hu => ?_
  obtain ⟨s, -, x, hx, hm⟩ := mem_join.1 hu
  obtain rfl := Multiset.mem_singleton.1 hx
  exact (inRow_of_get? (get?_of_merge?_single hm)).symm

/-- What the graphs that a row does not exclude find for it. -/
theorem bind_inRow_eq (hn : (c.namedGraphs d).Nodup) (m : Solution) :
    (Solution.join {m} (c.graphRows d v)).bind (p.inRow (c.leafRows d) k v) =
      (c.rowGraphs d v m : Multiset Iri).bind fun iri =>
        p.rows (c.leafRows d) k (.named iri) {m.insert v (.iri iri)} := by
  rw [Scope.singleton_join_graphRows hn, Multiset.bind_map]
  exact Multiset.bind_congr fun iri _ => inRow_of_get? (by simp)

end Pattern

end SparqlAlgebra

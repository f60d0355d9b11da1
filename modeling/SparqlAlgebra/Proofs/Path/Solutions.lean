import SparqlAlgebra.Plan.Triples
import SparqlAlgebra.Proofs.Path.Reach
import SparqlAlgebra.Proofs.Pattern.Solutions
import SparqlAlgebra.Proofs.Stage.Yields

/-!
# Solutions of path patterns

A path pattern is matched by the pairs of related terms, each once. For a path that cannot be empty the computed
solutions are these matches, whichever ends are variables, and bindings may be filled in before or after.

What a path pattern answers in a graph is said through the relation of its path: a given end need not occur in the
graph, but the start of a path between two variables is one of its subjects and objects. The computed solutions are
these answers, for every path, and no closure on the way is cut off.
-/

namespace SparqlAlgebra

/-! ## Matches -/

open Solution

namespace Path

variable {ts : List Triple} {p : Path} {e : Term × Term}

open Classical in
/-- The related pairs among the subjects and objects, each once. -/
noncomputable def related (ts : List Triple) (p : Path) : List (Term × Term) :=
  (nodes ts ×ˢ nodes ts).filter fun e => p.Relates ts e.1 e.2

/-- Each related pair is listed once. -/
theorem nodup_related (ts : List Triple) (p : Path) : (related ts p).Nodup :=
  ((nodup_nodes ts).product (nodup_nodes ts)).filter _

open Classical in

/-- The related pairs of a path that cannot be empty are all that it relates. -/
theorem mem_related (hp : p.nullable = false) : e ∈ related ts p ↔ p.Relates ts e.1 e.2 := by
  rw [related, List.mem_filter, decide_eq_true_iff, and_iff_right_iff_imp]
  intro h
  exact List.mem_product.2 (h.mem_nodes hp)

end Path

namespace PathPattern

variable {ts : List Triple} {q : PathPattern} {s m : Solution} {e f : Term × Term}

/-- Fills in the bindings of a solution at both ends. -/
def bind (s : Solution) (q : PathPattern) : PathPattern := ⟨q.subject.bind s, q.path, q.object.bind s⟩

/-- Whether both ends are variables. -/
def isOpen (q : PathPattern) : Bool := q.subject.var?.isSome && q.object.var?.isSome

/-- The bindings under which the ends are the given ones. -/
def match? (q : PathPattern) (e : Term × Term) : Option Solution :=
  (q.subject.match? e.1 .empty).bind (q.object.match? e.2)

/-- The matches of a path pattern: each pair of related terms matches once. -/
noncomputable def matchesIn (ts : List Triple) (q : PathPattern) : Multiset Solution :=
  ↑((q.path.related ts).filterMap q.match?)

/-- A match makes the ends the given ones and binds no variable but theirs. -/
theorem match?_eq_some_iff :
    q.match? e = some m ↔
      q.subject.bind m = .term e.1 ∧ q.object.bind m = .term e.2 ∧
        ∀ v, m.binds v = true → q.subject.var? = some v ∨ q.object.var? = some v := by
  have hsound : ∀ {m}, q.match? e = some m →
      q.subject.bind m = .term e.1 ∧ q.object.bind m = .term e.2 ∧
        ∀ v, m.binds v = true → q.subject.var? = some v ∨ q.object.var? = some v := by
    intro m h
    obtain ⟨a, ha, hm⟩ := Option.bind_eq_some_iff.1 h
    obtain ⟨hae, -, hav⟩ := Slot.match?_eq_some_iff.1 ha
    obtain ⟨hme, hma, hmv⟩ := Slot.match?_eq_some_iff.1 hm
    refine ⟨Slot.bind_of_extends hma hae, hme, fun v hv => ?_⟩
    rcases hmv v hv with hv | hv
    · rcases hav v hv with hv | hv
      · simp [binds] at hv
      · exact .inl hv
    · exact .inr hv
  constructor
  · exact hsound
  · rintro ⟨hs, ho, hv⟩
    obtain ⟨a, ha, hma⟩ := Slot.exists_match? (fun v t h => by simp at h : Extends m .empty) hs
    obtain ⟨b, hb, hmb⟩ := Slot.exists_match? hma ho
    have he : q.match? e = some b := by rw [match?, ha, Option.bind_some, hb]
    obtain ⟨hbs, hbo, -⟩ := hsound he
    rw [he, hmb.eq fun v hm => ?_]
    exact (hv v hm).elim (Slot.binds_of_bind_eq hbs) (Slot.binds_of_bind_eq hbo)

/-- Different ends have different matches. -/
theorem eq_of_match? (he : q.match? e = some m) (hf : q.match? f = some m) : e = f := by
  obtain ⟨hes, heo, -⟩ := match?_eq_some_iff.1 he
  obtain ⟨hfs, hfo, -⟩ := match?_eq_some_iff.1 hf
  rw [hes] at hfs
  rw [heo] at hfo
  exact Prod.ext (Slot.term.inj hfs) (Slot.term.inj hfo)

/-- The matches of such a path are those of all related pairs. -/
theorem mem_matchesIn (hp : q.path.nullable = false) :
    m ∈ q.matchesIn ts ↔ ∃ e : Term × Term, q.path.Relates ts e.1 e.2 ∧ q.match? e = some m := by
  rw [matchesIn, Multiset.mem_coe, List.mem_filterMap]
  exact exists_congr fun e => and_congr_left fun _ => Path.mem_related hp

/-- No match occurs twice. -/
theorem nodup_matchesIn (ts : List Triple) (q : PathPattern) : (q.matchesIn ts).Nodup :=
  Multiset.coe_nodup.2 ((Path.nodup_related ts q.path).filterMap fun _ _ _ he hf => eq_of_match? he hf)

/-- Only the set of the triples matters. -/
theorem matchesIn_congr {us : List Triple} (hp : q.path.nullable = false) (h : ∀ t, t ∈ ts ↔ t ∈ us) :
    q.matchesIn ts = q.matchesIn us := by
  refine (Multiset.Nodup.ext (nodup_matchesIn ts q) (nodup_matchesIn us q)).2 fun m => ?_
  rw [mem_matchesIn hp, mem_matchesIn hp]
  refine exists_congr fun e => and_congr_left fun _ => ?_
  exact ⟨Path.Relates.mono fun t => (h t).1, Path.Relates.mono fun t => (h t).2⟩

/-- Filling in bindings before a match changes nothing once the match is merged with them. -/
theorem bind_match?_bind_merge? (q : PathPattern) (e : Term × Term) (s : Solution) :
    ((q.bind s).match? e).bind s.merge? = (q.match? e).bind s.merge? := by
  have hmerge : ∀ r : PathPattern, (r.match? e).bind s.merge? =
      (r.subject.match? e.1 s).bind (r.object.match? e.2) := by
    intro r
    have hs := Slot.match?_bind_merge? r.subject e.1 s .empty
    rw [merge?_empty, Option.bind_some] at hs
    rw [match?, ← hs, Option.bind_assoc, Option.bind_assoc]
    exact Option.bind_congr fun a _ => Slot.match?_bind_merge? r.object e.2 s a
  rw [hmerge, hmerge]
  unfold bind
  rw [Slot.bind_match? _ _ (Extends.refl s)]
  refine Option.bind_congr fun a ha => ?_
  have has : Extends a s := (Slot.match?_eq_some_iff.1 ha).2.1
  exact Slot.bind_match? _ _ has

/-- Merged with a row, the matches of a pattern are those with the row put in. -/
theorem filterMap_matchesIn_bind (ts : List Triple) (q : PathPattern) (s : Solution) :
    ((q.bind s).matchesIn ts).filterMap s.merge? = (q.matchesIn ts).filterMap s.merge? := by
  unfold matchesIn
  rw [Multiset.filterMap_coe, Multiset.filterMap_coe, List.filterMap_filterMap, List.filterMap_filterMap]
  have hb : (q.bind s).path = q.path := rfl
  simp only [bind_match?_bind_merge?, hb]

end PathPattern

namespace Path

variable {ts : List Triple} {p : Path} {x y : Slot} {m : Solution}

/-- The computed solutions are the matches of related pairs. Between two variables the pairs start in the triples. -/
theorem mem_solutions_iff (q : PathPattern) :
    m ∈ Path.solutions ts q.subject q.path q.object ↔
      ∃ e : Term × Term, q.path.Relates ts e.1 e.2 ∧ (q.isOpen = true → e.1 ∈ nodes ts) ∧ q.match? e = some m := by
  obtain ⟨x, p, y⟩ := q
  cases x with
  | term a =>
    cases y with
    | term b =>
      have hm : ∀ e : Term × Term, (PathPattern.mk (.term a) p (.term b)).match? e = some m ↔
          (a = e.1 ∧ b = e.2) ∧ .empty = m := by
        intro e
        by_cases ha : a = e.1 <;> by_cases hb : b = e.2 <;> simp [PathPattern.match?, Slot.match?, ha, hb]
      simp only [hm, Prod.exists]
      simp [Path.solutions, PathPattern.isOpen, Slot.var?, mem_reach_forward, eq_comm]
    | var w =>
      have hm : ∀ e : Term × Term, (PathPattern.mk (.term a) p (.var w)).match? e = some m ↔
          a = e.1 ∧ Solution.empty.insert w e.2 = m := by
        intro e
        by_cases ha : a = e.1 <;> simp [PathPattern.match?, Slot.match?, ha]
      simp only [hm, Prod.exists]
      simp [Path.solutions, PathPattern.isOpen, Slot.var?, mem_reach_forward]
  | var v =>
    cases y with
    | term b =>
      have hm : ∀ e : Term × Term, (PathPattern.mk (.var v) p (.term b)).match? e = some m ↔
          b = e.2 ∧ Solution.empty.insert v e.1 = m := by
        intro e
        by_cases hb : b = e.2 <;> simp [PathPattern.match?, Slot.match?, hb]
      simp only [hm, Prod.exists]
      simp [Path.solutions, PathPattern.isOpen, Slot.var?, mem_reach_backward]
    | var w =>
      by_cases hvw : v = w
      · subst hvw
        have hm : ∀ e : Term × Term, (PathPattern.mk (.var v) p (.var v)).match? e = some m ↔
            e.1 = e.2 ∧ Solution.empty.insert v e.1 = m := by
          intro e
          by_cases he : e.1 = e.2 <;> simp [PathPattern.match?, Slot.match?, he]
        simp only [hm, Prod.exists]
        simp [Path.solutions, PathPattern.isOpen, Slot.var?, mem_pairs, and_assoc]
      · have hm : ∀ e : Term × Term, (PathPattern.mk (.var v) p (.var w)).match? e = some m ↔
            (Solution.empty.insert v e.1).insert w e.2 = m := by
          intro e
          have hwv : w ≠ v := fun h => hvw h.symm
          simp [PathPattern.match?, Slot.match?, hwv]
        simp only [hm, Prod.exists]
        simp [Path.solutions, PathPattern.isOpen, Slot.var?, mem_pairs, hvw, and_assoc]

/-- The solutions of such a path are the matches of all related pairs. -/
theorem mem_solutions (hp : p.nullable = false) :
    m ∈ Path.solutions ts x p y ↔
      ∃ e : Term × Term, p.Relates ts e.1 e.2 ∧ (PathPattern.mk x p y).match? e = some m :=
  (mem_solutions_iff ⟨x, p, y⟩).trans <| exists_congr fun _ => and_congr_right fun h =>
    and_iff_right fun _ => (h.mem_nodes hp).1

/-- Each solution of a path is listed once. -/
theorem nodup_solutions (ts : List Triple) (x : Slot) (p : Path) (y : Slot) :
    (Path.solutions ts x p y).Nodup := by
  have hinsert : ∀ {v : Variable} {a b : Term}, Solution.empty.insert v a = Solution.empty.insert v b → a = b := by
    intro v a b h
    have hv : (Solution.empty.insert v a).get? v = (Solution.empty.insert v b).get? v := by rw [h]
    simpa using hv
  cases x with
  | term a =>
    cases y with
    | term b =>
      unfold Path.solutions
      dsimp only
      split <;> simp
    | var w => exact (finds_reach ts p .forward a).1.map fun b c h => hinsert h
  | var v =>
    cases y with
    | term b => exact (finds_reach ts p .backward b).1.map fun a c h => hinsert h
    | var w =>
      by_cases hvw : v = w
      · subst hvw
        have hd : ((p.pairs ts).filter fun e => e.1 == e.2).Nodup := (nodup_pairs ts p).filter _
        simp only [Path.solutions, if_true]
        refine hd.map_on fun e he f hf h => ?_
        have he := (List.mem_filter.1 he).2
        have hf := (List.mem_filter.1 hf).2
        have h1 := hinsert h
        rw [beq_iff_eq] at he hf
        exact Prod.ext h1 (he.symm.trans (h1.trans hf))
      · simp only [Path.solutions, if_neg hvw]
        refine (nodup_pairs ts p).map fun e f h => ?_
        have hw : ((Solution.empty.insert v e.1).insert w e.2).get? w =
            ((Solution.empty.insert v f.1).insert w f.2).get? w := by rw [h]
        have hv : ((Solution.empty.insert v e.1).insert w e.2).get? v =
            ((Solution.empty.insert v f.1).insert w f.2).get? v := by rw [h]
        simp only [get?_insert, if_true, hvw, if_false, Option.some.injEq] at hw hv
        exact Prod.ext hv hw

/-- The computed solutions of a path that cannot be empty are the matches. -/
theorem solutions_eq_matchesIn (hp : p.nullable = false) :
    (Path.solutions ts x p y : Multiset Solution) = (PathPattern.mk x p y).matchesIn ts := by
  refine (Multiset.Nodup.ext (Multiset.coe_nodup.2 (nodup_solutions ts x p y))
    (PathPattern.nodup_matchesIn ts _)).2 fun m => ?_
  rw [Multiset.mem_coe, mem_solutions hp, PathPattern.mem_matchesIn hp]

end Path

/-! ## Answers -/

open Stage

namespace Path

variable {ts : List Triple} {p : Path} {x y : Term}

/-- A term is a subject or an object. -/
def Occurs (ts : List Triple) (x : Term) : Prop := ∃ t ∈ ts, x = t.subject.toTerm ∨ x = t.object

/-- No closure of a path is cut off for lack of fuel. -/
theorem closes_reach (ts : List Triple) (p : Path) (d : Direction) (includeStart : Bool) (x : Term) :
    Closes (p.reach ts d) (.ofList (if includeStart then [x] else [])) (if includeStart then [x] else []) [x]
      (close ts (p.reach ts d) includeStart x) := by
  have hfinds := finds_reach ts p d
  refine closes_close (fun y => (hfinds y).1) (fun y z hz => ?_) includeStart x
  exact Direction.Relates.eq_or_mem (((hfinds y).2 z).1 hz)

/-- The pairs of a path are the related ones that start in the graph. -/
theorem mem_pairs_iff : (x, y) ∈ p.pairs ts ↔ Occurs ts x ∧ p.Relates ts x y := by
  rw [mem_pairs, mem_nodes, Occurs, and_comm]

/-- What a path relates depends only on which triples there are. -/
theorem relates_congr {us : List Triple} (h : ∀ t, t ∈ ts ↔ t ∈ us) : p.Relates ts = p.Relates us :=
  funext₂ fun _ _ => propext ⟨Relates.mono fun t => (h t).1, Relates.mono fun t => (h t).2⟩

/-- Which terms occur depends only on which triples there are. -/
theorem occurs_congr {us : List Triple} (h : ∀ t, t ∈ ts ↔ t ∈ us) : Occurs ts = Occurs us :=
  funext fun _ => propext (exists_congr fun t => and_congr_left fun _ => h t)

end Path

namespace PathPattern

variable {ts : List Triple} {m : Solution}

/-- The answers of a path pattern. -/
def Answers (ts : List Triple) (q : PathPattern) (m : Solution) : Prop :=
  match q.subject, q.object with
  | .term x, .term y => q.path.Relates ts x y ∧ m = .empty
  | .term x, .var w => ∃ y, q.path.Relates ts x y ∧ m = Solution.empty.insert w y
  | .var v, .term y => ∃ x, q.path.Relates ts x y ∧ m = Solution.empty.insert v x
  | .var v, .var w =>
    if v = w then ∃ x, Path.Occurs ts x ∧ q.path.Relates ts x x ∧ m = Solution.empty.insert v x
    else ∃ x y, Path.Occurs ts x ∧ q.path.Relates ts x y ∧ m = (Solution.empty.insert v x).insert w y

/-- The computed solutions are the answers. -/
theorem mem_solutions_iff_answers (q : PathPattern) :
    m ∈ Path.solutions ts q.subject q.path q.object ↔ q.Answers ts m := by
  obtain ⟨subject, p, object⟩ := q
  cases subject with
  | term x =>
    cases object with
    | term y =>
      by_cases hxy : p.Relates ts x y
      · simp [Path.solutions, Answers, Path.mem_reach_forward, hxy]
      · simp [Path.solutions, Answers, Path.mem_reach_forward, hxy]
    | var w => simp [Path.solutions, Answers, Path.mem_reach_forward, eq_comm]
  | var v =>
    cases object with
    | term y => simp [Path.solutions, Answers, Path.mem_reach_backward, eq_comm]
    | var w =>
      by_cases hvw : v = w
      · subst hvw
        simp [Path.solutions, Answers, Path.mem_pairs_iff, and_assoc, eq_comm (b := m)]
      · simp [Path.solutions, Answers, Path.mem_pairs_iff, hvw, and_assoc, eq_comm (b := m)]

/-- Only the set of the triples matters, up to the order of the solutions. -/
theorem solutions_perm {us : List Triple} (h : ∀ t, t ∈ ts ↔ t ∈ us) (q : PathPattern) :
    (Path.solutions ts q.subject q.path q.object).Perm (Path.solutions us q.subject q.path q.object) := by
  refine (List.perm_ext_iff_of_nodup (Path.nodup_solutions ..) (Path.nodup_solutions ..)).2 fun m => ?_
  rw [mem_solutions_iff_answers, mem_solutions_iff_answers, Answers, Answers, Path.relates_congr h, Path.occurs_congr h]

/-- Each row is joined with the solutions of the path between the ends that it fills in. -/
theorem yields_run (q : PathPattern) {d : Dataset} {P : Store → Prop} (hP : ∀ s, P s → s.dataset = d) (g : Engine)
    (r : GraphRef) {source : Flow Solution} {rows : List Solution} (h : Yields P source rows) :
    Yields P (q.run g r source) (rows.flatMap fun s =>
      (Path.solutions (r.triples d) (q.subject.bind s) q.path (q.object.bind s)).filterMap s.merge?) := by
  refine g.yields_mergeMap (fun s _ => .read fun st hst => ?_) h
  rw [hP st hst]
  exact g.yields_filterMap _ (.ofList _)

/-- Evaluating a path pattern in a graph ends and delivers exactly its answers, each once; every closure that it
computes runs until nothing waits any more. -/
theorem run_exact (g : Engine) (name : GraphName) (q : PathPattern) (st : Store) :
    ∃ out, ((q.run g (.single name) (.ofList [.empty])).collect st).1 = .ok out ∧ out.Nodup ∧
      (∀ m, m ∈ out ↔ q.Answers (st.dataset.graph name).triples m) ∧
      ∀ (p : Path) (d : Path.Direction) (includeStart : Bool) (x : Term),
        Path.Closes (p.reach (st.dataset.graph name).triples d) (.ofList (if includeStart then [x] else []))
          (if includeStart then [x] else []) [x]
          (Path.close (st.dataset.graph name).triples (p.reach (st.dataset.graph name).triples d) includeStart x) := by
  have hrun := q.yields_run (d := st.dataset) (P := fun s => s.dataset = st.dataset) (fun _ hs => hs) g
    (.single name) (.ofList [.empty])
  obtain ⟨t, -, hc⟩ := hrun.collect rfl
  have htriples : GraphRef.triples st.dataset (.single name) = (st.dataset.graph name).triples := by
    simp [GraphRef.triples, GraphRef.leaves]
  have hout : (Path.solutions (st.dataset.graph name).triples (q.subject.bind .empty) q.path
      (q.object.bind .empty)).filterMap Solution.empty.merge? =
        Path.solutions (st.dataset.graph name).triples q.subject q.path q.object := by
    have hbind : ∀ x : Slot, x.bind .empty = x := by
      rintro (v | t)
      · rfl
      · rfl
    rw [hbind, hbind]
    simp
  rw [htriples, List.flatMap_singleton, hout] at hc
  refine ⟨_, by rw [hc], Path.nodup_solutions _ _ _ _, fun m => mem_solutions_iff_answers q, ?_⟩
  exact Path.closes_reach _

end PathPattern

end SparqlAlgebra

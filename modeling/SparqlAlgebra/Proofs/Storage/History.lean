import SparqlAlgebra.Proofs.Join.Lookup
import SparqlAlgebra.Proofs.Plan.Build
import SparqlAlgebra.Proofs.Storage.Dataset

/-!
# Histories of graphs

What a graph holds after a sequence of insertions, deletions and clearings, whether they are made on the graph itself or
on a union that it is a member of: the triples whose insertion nothing has taken back, each at the first such insertion.
What an operation reports is compared with what it has changed.
-/

namespace SparqlAlgebra

/-- An operation on a graph. -/
inductive Change where
  | insert (t : Triple)
  | delete (t : Triple)
  | clear
  deriving DecidableEq

namespace Change

/-- Whether a triple is not there after the operation. -/
def removes (t : Triple) : Change → Bool
  | .insert _ => false
  | .delete u => u == t
  | .clear => true

/-- The triples whose insertion no later operation takes back, in the order of these insertions. -/
def survivors : List Change → List Triple
  | [] => []
  | .insert t :: rest => if rest.any (·.removes t) then survivors rest else t :: survivors rest
  | .delete _ :: rest => survivors rest
  | .clear :: rest => survivors rest

/-- Inserting takes nothing back. -/
theorem survivors_insert (xs : List Change) (t : Triple) : survivors (xs ++ [.insert t]) = survivors xs ++ [t] := by
  induction xs with
  | nil => rfl
  | cons x xs ih =>
    cases x with
    | insert u =>
      have hany : (xs ++ [Change.insert t]).any (·.removes u) = xs.any (·.removes u) := by simp [removes]
      rw [List.cons_append, survivors, survivors, hany, ih]
      split <;> rfl
    | delete u => exact ih
    | clear => exact ih

/-- A deletion leaves every other survivor. -/
theorem survivors_delete (xs : List Change) (t : Triple) :
    survivors (xs ++ [.delete t]) = (survivors xs).filter (· != t) := by
  induction xs with
  | nil => rfl
  | cons x xs ih =>
    cases x with
    | insert u =>
      have hany : (xs ++ [Change.delete t]).any (·.removes u) = (xs.any (·.removes u) || t == u) := by simp [removes]
      rw [List.cons_append, survivors, survivors, hany, ih]
      cases xs.any (·.removes u) with
      | true => rfl
      | false =>
        by_cases htu : t = u
        · simp [htu]
        · simp [htu, Ne.symm htu]
    | delete u => exact ih
    | clear => exact ih

/-- Nothing survives clearing. -/
theorem survivors_clear (xs : List Change) : survivors (xs ++ [.clear]) = [] := by
  induction xs with
  | nil => rfl
  | cons x xs ih =>
    cases x with
    | insert u =>
      have hany : (xs ++ [Change.clear]).any (·.removes u) = true := by simp [removes]
      rw [List.cons_append, survivors, hany, if_pos rfl, ih]
    | delete u => exact ih
    | clear => exact ih

/-- Insertions alone all survive. -/
theorem survivors_map_insert (ts : List Triple) : survivors (ts.map .insert) = ts := by
  induction ts with
  | nil => rfl
  | cons t ts ih =>
    have hany : (ts.map Change.insert).any (·.removes t) = false := by simp [removes]
    rw [List.map_cons, survivors, hany, if_neg Bool.false_ne_true, ih]

end Change

/-! ## First occurrences -/

section EraseDups

variable {α : Type} [DecidableEq α]

/-- Appending a value appends it to the values without repetition unless it is there. -/
theorem eraseDups_concat (xs : List α) (x : α) :
    (xs ++ [x]).eraseDups = if x ∈ xs then xs.eraseDups else xs.eraseDups ++ [x] := by
  rw [List.eraseDups_append]
  by_cases hx : x ∈ xs <;> simp [List.removeAll, hx, List.eraseDups_cons]

/-- Leaving values out does not change which occurrence of the others is the first. -/
theorem eraseDups_filter (p : α → Bool) (xs : List α) : (xs.filter p).eraseDups = xs.eraseDups.filter p := by
  induction h : xs.length using Nat.strong_induction_on generalizing xs with
  | _ n ih =>
    cases xs with
    | nil => rfl
    | cons x xs =>
      have hshort : (xs.filter fun y => !y == x).length < n := by
        rw [← h, List.length_cons]
        exact Nat.lt_succ_of_le (List.length_filter_le _ xs)
      have hrest := ih _ hshort (xs.filter fun y => !y == x) rfl
      rw [List.filter_filter] at hrest
      rw [List.eraseDups_cons, List.filter_cons, List.filter_cons, ← hrest]
      by_cases hp : p x = true
      · rw [if_pos hp, if_pos hp, List.eraseDups_cons, List.filter_filter]
        simp only [Bool.and_comm]
      · rw [if_neg hp, if_neg hp]
        congr 1
        refine List.filter_congr fun y _ => ?_
        by_cases hy : y = x
        · simp [hy, hp]
        · simp [hy]

/-- A list without repetition is unchanged. -/
theorem eraseDups_of_nodup {xs : List α} (h : xs.Nodup) : xs.eraseDups = xs := by
  induction xs with
  | nil => rfl
  | cons x xs ih =>
    obtain ⟨hx, hxs⟩ := List.nodup_cons.1 h
    have hfilter : xs.filter (fun y => !y == x) = xs :=
      List.filter_eq_self.2 fun y hy => by simpa using ne_of_mem_of_not_mem hy hx
    rw [List.eraseDups_cons, hfilter, ih hxs]

end EraseDups

namespace Graph

variable {g : Graph} {t : Triple}

/-- What becomes of a graph. -/
def apply (g : Graph) : Change → Graph
  | .insert t => g.insert t
  | .delete t => g.delete t
  | .clear => g.clear

/-- Operations change neither the name of a graph nor what it can do. -/
theorem declared_apply (g : Graph) (x : Change) : ((g.apply x).iri, (g.apply x).capabilities) = (g.iri, g.capabilities) := by
  cases x with
  | insert t =>
    rw [apply, insert]
    split <;> rfl
  | delete t =>
    rw [apply, delete]
    split <;> rfl
  | clear => rfl

/-- Changes never touch the name and the capabilities of a graph. -/
theorem declared_foldl_apply (g : Graph) (xs : List Change) :
    ((xs.foldl apply g).iri, (xs.foldl apply g).capabilities) = (g.iri, g.capabilities) := by
  induction xs generalizing g with
  | nil => rfl
  | cons x xs ih => rw [List.foldl_cons, ih, declared_apply]

/-- Deleting a triple that is not there changes nothing. -/
theorem delete_of_missing (h : g.contains t = false) : g.delete t = g := if_neg (by rw [h]; exact Bool.false_ne_true)

/-- A triple can be removed only once. -/
theorem delete_delete (g : Graph) (t : Triple) : (g.delete t).delete t = g.delete t := by
  refine delete_of_missing (Bool.eq_false_iff.2 fun h => ?_)
  rw [contains_iff_mem, triples_delete] at h
  simp at h

/-- After a sequence of operations the graph holds the triples that survive it, each at its first surviving insertion.
What it held at the start counts as inserted before. -/
theorem triples_foldl_apply (g : Graph) (xs : List Change) :
    (xs.foldl apply g).triples = (Change.survivors (g.triples.map .insert ++ xs)).eraseDups := by
  induction xs using List.reverseRecOn with
  | nil => rw [List.foldl_nil, List.append_nil, Change.survivors_map_insert, eraseDups_of_nodup g.nodup_triples]
  | append_singleton xs x ih =>
    rw [List.foldl_append, List.foldl_cons, List.foldl_nil, ← List.append_assoc]
    cases x with
    | insert t =>
      rw [apply, triples_insert, ih, Change.survivors_insert, eraseDups_concat]
      simp only [List.mem_eraseDups]
    | delete t => rw [apply, triples_delete, ih, Change.survivors_delete, eraseDups_filter]
    | clear => rw [apply, triples_clear, Change.survivors_clear, List.eraseDups_nil]

end Graph

/-! ## Operations on references -/

namespace GraphRef

/-- Carries out an operation, and tells what it reports. Clearing reports nothing. -/
def apply (d : Dataset) (r : GraphRef) : Change → Except QueryError (Option Bool × Dataset)
  | .insert t => (r.insert d t).map fun (b, d) => (some b, d)
  | .delete t => .ok (some (r.delete d t).1, (r.delete d t).2)
  | .clear => .ok (none, r.clear d)

/-- What an operation does to a single graph: an insertion goes to the first member of a union, and the rest goes to all
members. -/
def appliedTo (name : GraphName) (r : GraphRef) : Change → List Change
  | .insert t => if r.target? = some name then [.insert t] else []
  | .delete t => if name ∈ r.leaves then [.delete t] else []
  | .clear => if name ∈ r.leaves then [.clear] else []

/-- A change of a single graph is applied to it once. -/
theorem appliedTo_single (name : GraphName) (x : Change) : (GraphRef.single name).appliedTo name x = [x] := by
  cases x <;> simp [appliedTo, target?, leaves]

end GraphRef

namespace Dataset

/-- Carries out operations one after another, and tells what each of them reports. -/
def run (d : Dataset) : List (GraphRef × Change) → Except QueryError (List (Option Bool) × Dataset)
  | [] => .ok ([], d)
  | (r, x) :: rest => do
    let (report, d) ← r.apply d x
    let (reports, d) ← d.run rest
    return (report :: reports, d)

variable {d e : Dataset} {name : GraphName} {r : GraphRef} {t : Triple}

/-- What becomes of a graph that is there. -/
theorem graph_of_graph? {f : Graph → Graph} (hname : d.hasGraph name = true)
    (h : e.graph? name = (d.graph? name).map f) : e.graph name = f (d.graph name) := by
  obtain ⟨g, hg⟩ := Option.isSome_iff_exists.1 hname
  unfold graph
  rw [h, hg]
  rfl

/-- Changing graphs one after another changes each of them, and more often than once makes no difference. -/
theorem graph?_foldl_modify {f : Graph → Graph} (hf : ∀ g, f (f g) = f g) (names : List GraphName) (d : Dataset)
    (name : GraphName) :
    (names.foldl (fun d n => d.modify n f) d).graph? name =
      (d.graph? name).map fun g => if name ∈ names then f g else g := by
  induction names generalizing d with
  | nil => simp
  | cons n names ih =>
    rw [List.foldl_cons, ih, graph?_modify, Option.map_map]
    refine Option.map_congr fun g _ => ?_
    by_cases hn : n = name <;> by_cases hname : name ∈ names <;> simp [hn, hname, hf, Ne.symm]

/-- A removed triple is no longer in that graph. -/
theorem contains_modify_delete (d : Dataset) (n name : GraphName) (t : Triple) :
    ((d.modify n (·.delete t)).graph name).contains t = (n != name && (d.graph name).contains t) := by
  by_cases hn : n = name
  · subst hn
    rw [bne_self_eq_false, Bool.false_and, Bool.eq_false_iff, Ne, Graph.contains_iff_mem, mem_graph_iff, graph?_modify]
    rintro ⟨g, hg, ht⟩
    obtain ⟨g', -, rfl⟩ := Option.map_eq_some_iff.1 hg
    rw [if_pos rfl, Graph.triples_delete] at ht
    simp at ht
  · rw [graph_modify_of_ne hn, bne_iff_ne.2 hn, Bool.true_and]

/-- Removing a triple from several graphs reports whether it was in any of them at the start. -/
theorem foldl_delete (t : Triple) (names : List GraphName) (b : Bool) (d : Dataset) :
    names.foldl (fun (acc : Bool × Dataset) n => (acc.1 || (acc.2.graph n).contains t, acc.2.modify n (·.delete t)))
        (b, d) =
      (b || names.any fun n => (d.graph n).contains t, names.foldl (fun d n => d.modify n (·.delete t)) d) := by
  induction names generalizing b d with
  | nil => simp
  | cons n names ih =>
    have hlater : ((d.graph n).contains t || names.any fun m => n != m && (d.graph m).contains t) =
        ((d.graph n).contains t || names.any fun m => (d.graph m).contains t) := by
      -- A graph that comes again has lost the triple, but was looked at before.
      rw [Bool.eq_iff_iff]
      simp only [Bool.or_eq_true, List.any_eq_true, Bool.and_eq_true, bne_iff_ne]
      constructor
      · rintro (h | ⟨m, hm, -, h⟩)
        · exact .inl h
        · exact .inr ⟨m, hm, h⟩
      · rintro (h | ⟨m, hm, h⟩)
        · exact .inl h
        · by_cases hnm : n = m
          · exact .inl (hnm ▸ h)
          · exact .inr ⟨m, hm, hnm, h⟩
    rw [List.foldl_cons, List.foldl_cons, ih, List.any_cons]
    simp only [contains_modify_delete]
    rw [Bool.or_assoc, hlater]

end Dataset

namespace GraphRef

variable {d e : Dataset} {name : GraphName} {r : GraphRef} {t : Triple}

/-- Deleting from a reference deletes from all graphs it stands for, and reports whether one of them contained the
triple. -/
theorem delete_eq (d : Dataset) (r : GraphRef) (t : Triple) :
    r.delete d t = (r.leaves.any fun n => (d.graph n).contains t, r.leaves.foldl (fun d n => d.modify n (·.delete t)) d) :=
  Dataset.foldl_delete t r.leaves false d

/-- An operation does to each graph what it should. -/
theorem graph?_apply {x : Change} {report : Option Bool} (h : r.apply d x = .ok (report, e)) (name : GraphName) :
    e.graph? name = (d.graph? name).map fun g => (r.appliedTo name x).foldl Graph.apply g := by
  cases x with
  | insert t =>
    rw [apply, insert] at h
    rw [appliedTo]
    cases htarget : r.target? with
    | none =>
      rw [htarget] at h
      cases h
    | some n =>
      rw [htarget] at h
      cases h
      rw [Dataset.graph?_modify]
      refine Option.map_congr fun g _ => ?_
      by_cases hn : n = name <;> simp [hn, Graph.apply]
  | delete t =>
    cases h
    rw [delete_eq, appliedTo, Dataset.graph?_foldl_modify fun g => g.delete_delete t]
    refine Option.map_congr fun g _ => ?_
    by_cases hname : name ∈ r.leaves <;> simp [hname, Graph.apply]
  | clear =>
    cases h
    rw [clear, appliedTo, Dataset.graph?_foldl_modify (f := (·.clear)) fun _ => rfl]
    refine Option.map_congr fun g _ => ?_
    by_cases hname : name ∈ r.leaves <;> simp [hname, Graph.apply]

/-- Only inserting into a union without members fails. -/
theorem exists_apply (h : r.target?.isSome = true) (d : Dataset) (x : Change) :
    ∃ report e, r.apply d x = .ok (report, e) := by
  cases x with
  | insert t =>
    obtain ⟨n, hn⟩ := Option.isSome_iff_exists.1 h
    rw [apply, insert, hn]
    exact ⟨_, _, rfl⟩
  | delete t => exact ⟨_, _, rfl⟩
  | clear => exact ⟨_, _, rfl⟩

end GraphRef

namespace Dataset

variable {d e : Dataset} {name : GraphName} {ops : List (GraphRef × Change)} {reports : List (Option Bool)}

/-- A history in which every change names a target runs without an error. -/
theorem exists_run (h : ∀ op ∈ ops, op.1.target?.isSome = true) (d : Dataset) :
    ∃ reports e, d.run ops = .ok (reports, e) := by
  induction ops generalizing d with
  | nil => exact ⟨[], d, rfl⟩
  | cons op ops ih =>
    obtain ⟨report, e, happly⟩ := GraphRef.exists_apply (h op List.mem_cons_self) d op.2
    obtain ⟨reports, e', hrun⟩ := ih (fun x hx => h x (List.mem_cons_of_mem _ hx)) e
    refine ⟨report :: reports, e', ?_⟩
    rw [run, happly]
    change (do let (reports, d) ← e.run ops; return (report :: reports, d)) = _
    rw [hrun]
    rfl

/-- After a sequence of operations each graph is what the operations on it have made of it. -/
theorem graph?_run (h : d.run ops = .ok (reports, e)) (name : GraphName) :
    e.graph? name = (d.graph? name).map fun g => (ops.flatMap fun op => op.1.appliedTo name op.2).foldl Graph.apply g := by
  induction ops generalizing d reports with
  | nil =>
    cases h
    exact Option.map_id'.symm
  | cons op ops ih =>
    obtain ⟨⟨report, d'⟩, happly, hrest⟩ := exists_of_bind_eq_ok h
    obtain ⟨⟨reports', e'⟩, hrun, hpair⟩ := exists_of_bind_eq_ok hrest
    cases hpair
    rw [ih hrun, GraphRef.graph?_apply happly, Option.map_map, List.flatMap_cons]
    refine Option.map_congr fun g _ => ?_
    rw [List.foldl_append]
    rfl

/-- After a history each graph is what the changes applied to it, in order, make of it. -/
theorem graph_run (h : d.run ops = .ok (reports, e)) (hname : d.hasGraph name = true) :
    e.graph name = (ops.flatMap fun op => op.1.appliedTo name op.2).foldl Graph.apply (d.graph name) :=
  graph_of_graph? hname (graph?_run h name)

/-! ## Single graphs -/

/-- What is found in a graph are its triples that match, in the order of the graph. -/
theorem collect_find_single (g : Engine) (p : TriplePattern) (name : GraphName) (st : Store) :
    ((GraphRef.single name).find g p).collect st = (.ok ((st.dataset.graph name).triples.filter p.isMatch), st) := by
  have hyields : Stage.Yields (· = st) ((GraphRef.single name).find g p) ((st.dataset.graph name).find p) := by
    refine .read fun s hs => ?_
    rw [hs]
    exact .ofList _
  obtain ⟨t, rfl, hcollect⟩ := hyields.collect rfl
  rw [hcollect, Graph.find_eq_filter]

/-- The estimate for a single graph counts the matching triples, if the graph estimates at all. -/
theorem estimate_single (d : Dataset) (name : GraphName) (p : TriplePattern) :
    (GraphRef.single name).estimate d p =
      if (d.graph name).capabilities.estimate then .ok ((d.graph name).triples.filter p.isMatch).length
      else .error (.unsupported (d.graph name).iri "cardinality estimation") := by
  have hcount : (d.graph name).count p = ((d.graph name).triples.filter p.isMatch).length := by
    rw [Graph.count, Graph.triples, List.filter_reverse, List.length_reverse, List.countP_eq_length_filter]
  rw [GraphRef.estimate, hcount]

/-- An insertion or deletion reports whether it has changed the set of triples. -/
theorem reports_change {x : Change} {b : Bool} (hname : d.hasGraph name = true)
    (h : (GraphRef.single name).apply d x = .ok (some b, e)) :
    b = true ↔ ∃ u, ¬(u ∈ (e.graph name).triples ↔ u ∈ (d.graph name).triples) := by
  rw [graph_of_graph? hname (GraphRef.graph?_apply h name)]
  cases x with
  | insert t =>
    cases h
    simp only [GraphRef.appliedTo, GraphRef.target?, if_pos, List.foldl_cons, List.foldl_nil, Graph.apply,
      Graph.mem_insert, Bool.not_eq_true', Bool.eq_false_iff, Ne, Graph.contains_iff_mem]
    constructor
    · exact fun ht => ⟨t, fun hu => ht (hu.1 (.inr rfl))⟩
    · rintro ⟨u, hu⟩ ht
      refine hu ⟨?_, .inl⟩
      rintro (h | rfl)
      · exact h
      · exact ht
  | delete t =>
    cases h
    simp only [GraphRef.delete_eq, GraphRef.appliedTo, GraphRef.leaves, List.mem_singleton, if_pos, List.any_cons,
      List.any_nil, Bool.or_false, List.foldl_cons, List.foldl_nil, Graph.apply, Graph.triples_delete,
      List.mem_filter, Graph.contains_iff_mem, bne_iff_ne]
    constructor
    · exact fun ht => ⟨t, fun hu => (hu.2 ht).2 rfl⟩
    · rintro ⟨u, hu⟩
      by_contra ht
      refine hu ⟨And.left, fun h => ⟨h, ?_⟩⟩
      rintro rfl
      exact ht h
  | clear => cases h

/-- A graph is a set of triples that remembers the order of insertion. After every sequence of operations its list has
no repetitions and exactly the triples of the index, namely those whose insertion nothing has taken back, in the order
of the first such insertions; the next insertion or deletion reports whether it changes the set; and for every pattern
the triples that match are found, in the order of the list, and counted if the graph can estimate. -/
theorem run_refines_set (hname : d.hasGraph name = true) (xs : List Change) :
    ∃ reports e, d.run (xs.map fun x => (.single name, x)) = .ok (reports, e) ∧
      (e.graph name).triples = (Change.survivors ((d.graph name).triples.map .insert ++ xs)).eraseDups ∧
      (e.graph name).triples.Nodup ∧
      (∀ t, (e.graph name).index.contains t = true ↔ t ∈ (e.graph name).triples) ∧
      (∀ x b e', (GraphRef.single name).apply e x = .ok (some b, e') →
        (b = true ↔ ∃ u, ¬(u ∈ (e'.graph name).triples ↔ u ∈ (e.graph name).triples))) ∧
      (∀ (g : Engine) (p : TriplePattern) (st : Store), st.dataset = e →
        ((GraphRef.single name).find g p).collect st = (.ok ((e.graph name).triples.filter p.isMatch), st)) ∧
      ∀ p : TriplePattern, (GraphRef.single name).estimate e p =
        if (d.graph name).capabilities.estimate then .ok ((e.graph name).triples.filter p.isMatch).length
        else .error (.unsupported (d.graph name).iri "cardinality estimation") := by
  have htarget : ∀ op ∈ xs.map fun x => (GraphRef.single name, x), op.1.target?.isSome = true := by
    intro op hop
    obtain ⟨x, -, rfl⟩ := List.mem_map.1 hop
    rfl
  obtain ⟨reports, e, hrun⟩ := exists_run htarget d
  have hgraph : e.graph name = xs.foldl Graph.apply (d.graph name) := by
    rw [graph_run hrun hname, List.flatMap_map]
    simp only [GraphRef.appliedTo_single, List.flatMap_singleton']
  have he : e.hasGraph name = true := by
    rw [hasGraph, graph?_run hrun, Option.isSome_map]
    exact hname
  refine ⟨reports, e, hrun, ?_, (e.graph name).nodup_triples, fun t => ?_, fun x b e' h => reports_change he h,
    fun g p st hst => ?_, fun p => ?_⟩
  · rw [hgraph, Graph.triples_foldl_apply]
  · exact Graph.contains_iff_mem
  · rw [collect_find_single, hst]
  · have hdeclared := (d.graph name).declared_foldl_apply xs
    rw [← hgraph, Prod.mk.injEq] at hdeclared
    rw [estimate_single, hdeclared.1, hdeclared.2]

/-- A triple that is removed and inserted again comes last. -/
theorem run_refines_set_again :
    let p : Iri := ⟨"http://example.com/p"⟩
    let a : Triple := ⟨.iri ⟨"http://example.com/a"⟩, p, .string "1"⟩
    let b : Triple := ⟨.iri ⟨"http://example.com/b"⟩, p, .string "2"⟩
    let xs : List Change := [.insert a, .insert b, .insert a, .delete a, .insert a]
    let d : Dataset := .empty fun _ => ⟨true, false⟩
    d.hasGraph .default = true ∧
      ∃ reports e, d.run (xs.map fun x => (.single .default, x)) = .ok (reports, e) ∧
        (e.graph .default).triples = [b, a] ∧
        (GraphRef.single .default).estimate e ⟨.var ⟨"s"⟩, .iri p, .var ⟨"o"⟩⟩ = .ok 2 := by
  intro p a b xs d
  have hname : d.hasGraph .default = true := rfl
  obtain ⟨reports, e, hrun, htriples, -, -, -, -, hestimate⟩ := run_refines_set hname xs
  have hba : (e.graph .default).triples = [b, a] := by
    rw [htriples]
    decide +kernel
  refine ⟨hname, reports, e, hrun, hba, ?_⟩
  rw [hestimate, hba]
  decide +kernel

end Dataset

end SparqlAlgebra

import SparqlAlgebra.Proofs.Storage.History

/-!
# Unions of graphs

A union shows each triple of its members once. What is deleted through it is deleted from all members, and what is
inserted goes to the first one. A deletion reports what the union has shown; an insertion reports what the first member
has held, which is something else if only other members have the triple.
-/

namespace SparqlAlgebra

namespace GraphRef

/-- A union of single graphs stands for these graphs. -/
theorem leaves_union_single (names : List GraphName) : (GraphRef.union (names.map .single)).leaves = names := by
  rw [leaves]
  induction names with
  | nil => rfl
  | cons name names ih =>
    rw [List.map_cons, leavesOfAll, ih]
    rfl

end GraphRef

namespace Dataset

/-- One of several graphs has a triple. -/
def Shows (d : Dataset) (names : List GraphName) (t : Triple) : Prop := ∃ n ∈ names, t ∈ (d.graph n).triples

variable {d e : Dataset} {first : GraphName} {others names : List GraphName} {t : Triple}
  {ops : List (GraphRef × Change)} {reports : List (Option Bool)}

/-- What is found in a union is what its members have, each triple once. -/
theorem collect_find_union (g : Engine) (p : TriplePattern) (names : List GraphName) (st : Store) :
    ∃ found, ((GraphRef.union (names.map .single)).find g p).collect st = (.ok found, st) ∧ found.Nodup ∧
      ∀ t, t ∈ found ↔ st.dataset.Shows names t ∧ p.isMatch t = true := by
  obtain ⟨found, hyields, hnodup, hmem⟩ := GraphRef.yields_find_mem (P := (· = st)) (d := st.dataset)
    (fun s hs => by rw [hs]) g p (.union (names.map .single))
  obtain ⟨t, rfl, hcollect⟩ := hyields.collect rfl
  rw [GraphRef.leaves_union_single] at hmem
  exact ⟨found, hcollect, hnodup, hmem⟩

/-- Deleting from a union reports whether the union has shown the triple, and leaves it in no member. -/
theorem delete_union (hmembers : ∀ n ∈ names, d.hasGraph n = true) (t : Triple) :
    ∃ b e, (GraphRef.union (names.map .single)).apply d (.delete t) = .ok (some b, e) ∧
      (b = true ↔ d.Shows names t) ∧ ∀ n ∈ names, t ∉ (e.graph n).triples := by
  refine ⟨_, _, rfl, ?_, fun n hn => ?_⟩
  · simp [GraphRef.delete_eq, GraphRef.leaves_union_single, Shows]
  · have happly : (GraphRef.union (names.map .single)).apply d (.delete t) = .ok (_, _) := rfl
    rw [graph_of_graph? (hmembers n hn) (GraphRef.graph?_apply happly n), GraphRef.appliedTo,
      GraphRef.leaves_union_single, if_pos hn, List.foldl_cons, List.foldl_nil, Graph.apply, Graph.triples_delete]
    simp

/-- Clearing a union leaves nothing in its members. -/
theorem clear_union (hmembers : ∀ n ∈ names, d.hasGraph n = true) :
    ∃ e, (GraphRef.union (names.map .single)).apply d .clear = .ok (none, e) ∧ ∀ t, ¬e.Shows names t := by
  refine ⟨_, rfl, ?_⟩
  rintro t ⟨n, hn, ht⟩
  have happly : (GraphRef.union (names.map .single)).apply d .clear = .ok (_, _) := rfl
  rw [graph_of_graph? (hmembers n hn) (GraphRef.graph?_apply happly n), GraphRef.appliedTo,
    GraphRef.leaves_union_single, if_pos hn, List.foldl_cons, List.foldl_nil, Graph.apply, Graph.triples_clear] at ht
  exact absurd ht List.not_mem_nil

/-- Inserting into a union makes it show the triple, and reports whether its first member did not have it. -/
theorem insert_union (hfirst : d.hasGraph first = true) (others : List GraphName) (t : Triple) :
    ∃ b e, (GraphRef.union ((first :: others).map .single)).apply d (.insert t) = .ok (some b, e) ∧
      e.Shows (first :: others) t ∧ (b = true ↔ t ∉ (d.graph first).triples) := by
  have happly : (GraphRef.union ((first :: others).map .single)).apply d (.insert t) =
      .ok (some (!(d.graph first).contains t), d.modify first (·.insert t)) := rfl
  refine ⟨_, _, happly, ⟨first, List.mem_cons_self, ?_⟩, ?_⟩
  · rw [graph_of_graph? hfirst (GraphRef.graph?_apply happly first), GraphRef.appliedTo, List.map_cons,
      GraphRef.target?, GraphRef.target?, if_pos rfl, List.foldl_cons, List.foldl_nil, Graph.apply, Graph.mem_insert]
    exact .inr rfl
  · rw [Bool.not_eq_true', Bool.eq_false_iff, Ne, Graph.contains_iff_mem]

/-- A union shows what survives in one of its members. -/
theorem shows_run_iff (h : d.run ops = .ok (reports, e)) (hmembers : ∀ n ∈ names, d.hasGraph n = true) :
    e.Shows names t ↔ ∃ n ∈ names,
      t ∈ Change.survivors ((d.graph n).triples.map .insert ++ ops.flatMap fun op => op.1.appliedTo n op.2) := by
  refine exists_congr fun n => and_congr_right fun hn => ?_
  rw [graph_run h (hmembers n hn), Graph.triples_foldl_apply, List.mem_eraseDups]

/-- A union of graphs after any sequence of operations on it and on its members, among which a graph may come more than
once. It shows what survives in one of them; what matches is found once; a deletion reports whether the triple was shown
and leaves it in no member; clearing leaves nothing; and an insertion makes the triple show. The insertion reports
whether the first member did not have the triple, which tells whether the union did not show it exactly if the first
member has it or none. -/
theorem run_union (hmembers : ∀ n ∈ first :: others, d.hasGraph n = true)
    (hops : ∀ op ∈ ops, op.1 = .union ((first :: others).map .single) ∨ ∃ n ∈ first :: others, op.1 = .single n) :
    ∃ reports e, d.run ops = .ok (reports, e) ∧
      (∀ t, e.Shows (first :: others) t ↔ ∃ n ∈ first :: others,
        t ∈ Change.survivors ((d.graph n).triples.map .insert ++ ops.flatMap fun op => op.1.appliedTo n op.2)) ∧
      (∀ (g : Engine) (p : TriplePattern) (st : Store), st.dataset = e →
        ∃ found, ((GraphRef.union ((first :: others).map .single)).find g p).collect st = (.ok found, st) ∧
          found.Nodup ∧ ∀ t, t ∈ found ↔ e.Shows (first :: others) t ∧ p.isMatch t = true) ∧
      (∀ t, ∃ b e', (GraphRef.union ((first :: others).map .single)).apply e (.delete t) = .ok (some b, e') ∧
        (b = true ↔ e.Shows (first :: others) t) ∧ ∀ n ∈ first :: others, t ∉ (e'.graph n).triples) ∧
      (∃ e', (GraphRef.union ((first :: others).map .single)).apply e .clear = .ok (none, e') ∧
        ∀ t, ¬e'.Shows (first :: others) t) ∧
      ∀ t, ∃ b e', (GraphRef.union ((first :: others).map .single)).apply e (.insert t) = .ok (some b, e') ∧
        e'.Shows (first :: others) t ∧ (b = true ↔ t ∉ (e.graph first).triples) ∧
        ((b = true ↔ ¬e.Shows (first :: others) t) ↔
          t ∈ (e.graph first).triples ∨ ¬e.Shows (first :: others) t) := by
  have htarget : ∀ op ∈ ops, op.1.target?.isSome = true := by
    intro op hop
    rcases hops op hop with h | ⟨n, -, h⟩
    · rw [h]
      rfl
    · rw [h]
      rfl
  obtain ⟨reports, e, hrun⟩ := exists_run htarget d
  have he : ∀ n ∈ first :: others, e.hasGraph n = true := by
    intro n hn
    rw [hasGraph, graph?_run hrun, Option.isSome_map]
    exact hmembers n hn
  refine ⟨reports, e, hrun, fun t => shows_run_iff hrun hmembers, fun g p st hst => ?_, delete_union he, clear_union he,
    fun t => ?_⟩
  · subst hst
    exact collect_find_union g p _ st
  · obtain ⟨b, e', happly, hshows, hb⟩ := insert_union (he first List.mem_cons_self) others t
    refine ⟨b, e', happly, hshows, hb, ?_⟩
    have hfirst : t ∈ (e.graph first).triples → e.Shows (first :: others) t := fun ht => ⟨first, List.mem_cons_self, ht⟩
    tauto

/-- The second member has the triple, so that the union shows it; inserting it is reported as if it did not. -/
theorem run_union_inserting_shown :
    let g : GraphName := .named ⟨"http://example.com/g"⟩
    let t : Triple := ⟨.iri ⟨"http://example.com/a"⟩, ⟨"http://example.com/p"⟩, .string "1"⟩
    let d : Dataset := (Dataset.empty fun _ => ⟨true, false⟩).ensure g
    let names : List GraphName := [.default, g, .default]
    let ops : List (GraphRef × Change) :=
      [(.union (names.map .single), .insert t), (.single .default, .delete t), (.single g, .insert t)]
    (∀ n ∈ names, d.hasGraph n = true) ∧
      (∀ op ∈ ops, op.1 = .union (names.map .single) ∨ ∃ n ∈ names, op.1 = .single n) ∧
      ∃ reports e, d.run ops = .ok (reports, e) ∧ e.Shows names t ∧
        ∃ e', (GraphRef.union (names.map .single)).apply e (.insert t) = .ok (some true, e') := by
  intro g t d names ops
  have hmembers : ∀ n ∈ names, d.hasGraph n = true := by decide
  have hops : ∀ op ∈ ops, op.1 = .union (names.map .single) ∨ ∃ n ∈ names, op.1 = .single n := by
    intro op hop
    simp only [ops, List.mem_cons, List.not_mem_nil, or_false] at hop
    rcases hop with rfl | rfl | rfl
    · exact .inl rfl
    · exact .inr ⟨.default, List.mem_cons_self, rfl⟩
    · exact .inr ⟨g, List.mem_cons_of_mem _ List.mem_cons_self, rfl⟩
  obtain ⟨reports, e, hrun, hshows, -, -, -, hinsert⟩ := run_union hmembers hops
  have hg : e.Shows names t := (hshows t).2 ⟨g, List.mem_cons_of_mem _ List.mem_cons_self, by decide +kernel⟩
  have hdefault : t ∉ (e.graph .default).triples := by
    rw [graph_run hrun rfl, Graph.triples_foldl_apply]
    decide +kernel
  obtain ⟨b, e', happly, -, hb, -⟩ := hinsert t
  rw [hb.2 hdefault] at happly
  exact ⟨hmembers, hops, reports, e, hrun, hg, e', happly⟩

end Dataset

end SparqlAlgebra

import SparqlAlgebra.Update.Operation

/-!
# The graphs of a dataset

A change of one graph leaves the others as they are, and a change that does nothing to the graph leaves all of them.
If the graphs are well named, no two of them have the same IRI. From this follows what becomes of the triples of each
graph, and of which graphs there are, when quads are deleted or inserted one after another. Deleting looks only at the
graphs that are there; inserting also makes new ones.
-/

namespace SparqlAlgebra

/-! ## Changing a graph -/

namespace Dataset

variable {d : Dataset} {name : GraphName} {triple : Triple}

/-- Changing a graph changes what its name looks up, and nothing else. -/
theorem named?_modify (d : Dataset) (name : GraphName) (f : Graph → Graph) (iri : Iri) :
    (d.modify name f).named? iri = (d.named? iri).map fun g => if name = .named iri then f g else g := by
  cases name with
  | default => simp [modify, named?]
  | named i =>
    have he : (fun e : Iri × Graph => if e.1 = i then (e.1, f e.2) else e) =
        fun e => (e.1, if e.1 = i then f e.2 else e.2) := by
      funext e
      split <;> rfl
    rw [modify, named?, named?, he]
    induction d.named with
    | nil => rfl
    | cons e es ih =>
      obtain ⟨j, g⟩ := e
      rw [List.map_cons, List.lookup_cons, List.lookup_cons, ih]
      by_cases hj : iri = j
      · subst hj
        simp [eq_comm]
      · rw [beq_false_of_ne hj]

/-- Changing a graph creates none. -/
theorem hasNamed_modify (d : Dataset) (name : GraphName) (f : Graph → Graph) (iri : Iri) :
    (d.modify name f).hasNamed iri = d.hasNamed iri := by
  rw [hasNamed, hasNamed, named?_modify, Option.isSome_map]

/-- Changing one graph leaves the others as they are. -/
theorem graph_modify_of_ne {other : GraphName} (h : name ≠ other) (f : Graph → Graph) :
    (d.modify name f).graph other = d.graph other := by
  have hg : (d.modify name f).graph? other = d.graph? other := by
    cases other with
    | default =>
      cases name with
      | default => exact absurd rfl h
      | named iri => rfl
    | named iri =>
      rw [graph?, graph?, named?_modify]
      simp [h]
  unfold graph
  rw [hg]

/-- A change that does nothing to the graph of its name does nothing to any graph. -/
theorem graph_modify_of_fixed {f : Graph → Graph} (h : f (d.graph name) = d.graph name) (other : GraphName) :
    (d.modify name f).graph other = d.graph other := by
  by_cases hne : name = other
  · subst hne
    have hg : (d.modify name f).graph? name = (d.graph? name).map f := by
      cases name with
      | default => rfl
      | named iri => simp [graph?, named?_modify]
    unfold graph at h ⊢
    rw [hg]
    cases hd : d.graph? name with
    | none => rfl
    | some g =>
      rw [hd] at h
      exact h
  · exact graph_modify_of_ne hne f

/-- A graph that exists cannot be created. -/
theorem create_of_hasNamed {iri : Iri} (h : d.hasNamed iri = true) : d.create iri = .error (.graphExists iri) := by
  rw [create, add?, if_pos h]

/-- A graph in which a triple has been found was there before. -/
theorem ensure_of_contains (h : ((d.ensure name).graph name).contains triple = true) : d.ensure name = d := by
  cases name with
  | default => rfl
  | named iri =>
    by_cases hn : d.hasNamed iri = true
    · rw [ensure, create_of_hasNamed hn]
    · have hempty : (d.ensure (.named iri)).graph (.named iri) = .empty iri (d.newCapabilities iri) := by
        have hlookup : d.named.lookup iri = none := Option.not_isSome_iff_eq_none.1 hn
        simp [ensure, create, add?, hn, graph, graph?, named?, List.lookup_append, hlookup]
      rw [hempty, Graph.contains_iff_mem] at h
      cases h

/-- An insertion that adds nothing leaves every graph as it is. -/
theorem graph_insert_of_contains (h : ((d.ensure name).graph name).contains triple = true) (other : GraphName) :
    ((d.ensure name).modify name (·.insert triple)).graph other = d.graph other := by
  have hsame : d.ensure name = d := ensure_of_contains h
  rw [hsame] at h ⊢
  have hfixed : (d.graph name).insert triple = d.graph name := dif_pos h
  exact graph_modify_of_fixed (f := (·.insert triple)) hfixed other

/-- A removal that finds nothing leaves every graph as it is. -/
theorem graph_delete_of_missing (h : (d.graph name).contains triple = false) (other : GraphName) :
    (d.modify name (·.delete triple)).graph other = d.graph other := by
  have hfixed : (d.graph name).delete triple = d.graph name := if_neg (by simp [h])
  exact graph_modify_of_fixed (f := (·.delete triple)) hfixed other

/-- Each graph goes by the name under which it is found, and no named graph by that of the default graph or of
unions. -/
structure WellNamed (d : Dataset) : Prop where
  /-- The default graph has its own name. -/
  default : d.default.iri = defaultGraphIri
  /-- A named graph has the name that it is found under. -/
  named : ∀ e ∈ d.named, e.2.iri = e.1
  /-- No named graph has the name of the default graph. -/
  notDefault : d.named? defaultGraphIri = none
  /-- No named graph has the name of unions. -/
  notUnion : d.named? unionGraphIri = none

namespace WellNamed

variable {other : GraphName}

/-- In a well-named dataset a named graph bears the name it is looked up by. -/
theorem iri_graph (h : d.WellNamed) {iri : Iri} {g : Graph} (hg : d.named? iri = some g) :
    (d.graph (.named iri)).iri = iri := by
  obtain ⟨before, after, hnamed, -⟩ := List.lookup_eq_some_iff.1 hg
  have hentry : (iri, g) ∈ d.named := by
    rw [hnamed]
    simp
  rw [graph, graph?, hg, Option.getD_some]
  exact h.named (iri, g) hentry

/-- The IRI of a graph that is there is not that of unions. -/
theorem iri_ne_union (h : d.WellNamed) (hn : (d.graph? name).isSome = true) : (d.graph name).iri ≠ unionGraphIri := by
  cases name with
  | default =>
    have hiri : (d.graph .default).iri = defaultGraphIri := h.default
    rw [hiri]
    decide
  | named iri =>
    obtain ⟨g, hg⟩ := Option.isSome_iff_exists.1 hn
    have hiri := h.iri_graph hg
    intro hunion
    have hnone : d.named? iri = none := by rw [← hiri, hunion, h.notUnion]
    cases hg.symm.trans hnone

/-- Different graphs that are there have different IRIs. -/
theorem eq_of_iri (h : d.WellNamed) (hn : (d.graph? name).isSome = true) (ho : (d.graph? other).isSome = true)
    (hiri : (d.graph name).iri = (d.graph other).iri) : name = other := by
  have hnamed : ∀ iri, (d.graph? (.named iri)).isSome = true →
      (d.graph (.named iri)).iri = iri ∧ iri ≠ defaultGraphIri := by
    intro iri hi
    obtain ⟨g, hg⟩ := Option.isSome_iff_exists.1 hi
    refine ⟨h.iri_graph hg, ?_⟩
    intro hdefault
    rw [hdefault] at hg
    cases hg.symm.trans h.notDefault
  have hdefault : (d.graph .default).iri = defaultGraphIri := h.default
  cases name with
  | default =>
    cases other with
    | default => rfl
    | named iri =>
      obtain ⟨hi, hne⟩ := hnamed iri ho
      exact absurd (hi.symm.trans (hiri.symm.trans hdefault)) hne
  | named iri =>
    obtain ⟨hi, hne⟩ := hnamed iri hn
    cases other with
    | default => exact absurd (hi.symm.trans (hiri.trans hdefault)) hne
    | named iri' =>
      obtain ⟨hi', -⟩ := hnamed iri' ho
      rw [← hi, ← hi', hiri]

end WellNamed

end Dataset

/-! ## Quads -/

namespace Quad

/-- The triples of a graph in a list of quads. -/
theorem mem_triplesIn {qs : List Quad} {name : GraphName} {t : Triple} : t ∈ triplesIn qs name ↔ ⟨t, name⟩ ∈ qs := by
  rw [triplesIn, List.mem_map]
  constructor
  · rintro ⟨⟨u, other⟩, hq, rfl⟩
    rw [List.mem_filter, beq_iff_eq] at hq
    obtain ⟨hq, rfl⟩ := hq
    exact hq
  · intro hq
    exact ⟨⟨t, name⟩, List.mem_filter.2 ⟨hq, beq_self_eq_true _⟩, rfl⟩

end Quad

/-- Inserting a triple adds it, wherever it ends up. -/
theorem Graph.mem_insert {g : Graph} {t u : Triple} : t ∈ (g.insert u).triples ↔ t ∈ g.triples ∨ u = t := by
  rw [triples_insert]
  split
  · rename_i hu
    refine ⟨.inl, ?_⟩
    rintro (h | rfl)
    · exact h
    · exact hu
  · rw [List.mem_append, List.mem_singleton, eq_comm]

namespace Dataset

variable {d : Dataset} {name : GraphName} {t : Triple}

/-- A triple in a graph of the dataset: the graph exists and contains it. -/
theorem mem_graph_iff : t ∈ (d.graph name).triples ↔ ∃ g, d.graph? name = some g ∧ t ∈ g.triples := by
  unfold graph
  cases d.graph? name with
  | none => exact ⟨nofun, nofun⟩
  | some g => simp

/-- Changing a graph, the default one or a named one, changes what its name looks up, and nothing else. -/
theorem graph?_modify (d : Dataset) (name : GraphName) (f : Graph → Graph) (other : GraphName) :
    (d.modify name f).graph? other = (d.graph? other).map fun g => if name = other then f g else g := by
  cases other with
  | named iri => exact d.named?_modify name f iri
  | default =>
    cases name with
    | default => rfl
    | named iri => rfl

/-- Changing a graph makes none appear or disappear. -/
theorem hasGraph_modify (d : Dataset) (name : GraphName) (f : Graph → Graph) (other : GraphName) :
    (d.modify name f).hasGraph other = d.hasGraph other := by
  rw [hasGraph, hasGraph, graph?_modify, Option.isSome_map]

/-- Nothing is changed under a name that no graph has. -/
theorem modify_of_missing (h : d.hasGraph name = false) (f : Graph → Graph) : d.modify name f = d := by
  cases name with
  | default => cases h
  | named iri =>
    have hmissing : ∀ e ∈ d.named, (if e.1 = iri then (e.1, f e.2) else e) = e := by
      intro e he
      refine if_neg ?_
      rintro rfl
      have hthere : (d.named.lookup e.1).isSome = true := List.lookup_isSome_iff.2 ⟨e, he, beq_self_eq_true _⟩
      rw [hasGraph, graph?, named?, hthere] at h
      cases h
    rw [modify, List.map_congr_left hmissing, List.map_id']

/-- Clearing a graph takes all triples out of it and leaves the other graphs as they are. -/
theorem mem_modify_clear {other : GraphName} :
    t ∈ ((d.modify name (·.clear)).graph other).triples ↔ name ≠ other ∧ t ∈ (d.graph other).triples := by
  rw [mem_graph_iff, mem_graph_iff, graph?_modify]
  by_cases h : name = other
  · subst h
    simp
  · simp [h]

/-- A graph is demanded without an error exactly if it is there. -/
theorem demand_eq_ok_iff : d.demand name = .ok () ↔ d.hasGraph name = true := by
  cases name with
  | default => exact ⟨fun _ => rfl, fun _ => rfl⟩
  | named iri =>
    change _ ↔ d.hasNamed iri = true
    rw [demand]
    split <;> simp [*]

/-- Only a named graph can be missing. -/
theorem hasGraph_eq_false_iff : d.hasGraph name = false ↔ ∃ iri, name = .named iri ∧ d.hasNamed iri = false := by
  cases name with
  | default => simp [hasGraph, graph?]
  | named iri => simp [hasGraph, graph?, hasNamed]

/-- Demanding a missing graph is an error with its name. -/
theorem demand_of_missing {iri : Iri} (hmissing : d.hasNamed iri = false) :
    d.demand (.named iri) = .error (.graphMissing iri) := by
  rw [demand, hmissing]
  rfl

/-- Deleting quads takes its triples out of each graph that is there. -/
theorem graph?_deleteQuads (d : Dataset) (qs : List Quad) (name : GraphName) :
    (d.deleteQuads qs).graph? name = (d.graph? name).map (·.deleteAll (Quad.triplesIn qs name)) := by
  cases name with
  | default => rfl
  | named iri =>
    rw [graph?, graph?, named?, named?, deleteQuads]
    induction d.named with
    | nil => rfl
    | cons e es ih =>
      obtain ⟨i, g⟩ := e
      rw [List.map_cons, List.lookup_cons, List.lookup_cons, ih]
      by_cases hi : iri = i
      · subst hi
        simp
      · rw [beq_false_of_ne hi]

/-- Deleting quads removes no graph. -/
theorem hasGraph_deleteQuads (d : Dataset) (qs : List Quad) (name : GraphName) :
    (d.deleteQuads qs).hasGraph name = d.hasGraph name := by
  rw [hasGraph, hasGraph, graph?_deleteQuads, Option.isSome_map]

/-- A deleted quad is gone from its graph, every other triple stays. -/
theorem mem_deleteQuads {qs : List Quad} :
    t ∈ ((d.deleteQuads qs).graph name).triples ↔ t ∈ (d.graph name).triples ∧ ⟨t, name⟩ ∉ qs := by
  rw [mem_graph_iff, mem_graph_iff, graph?_deleteQuads]
  cases d.graph? name with
  | none => exact ⟨nofun, nofun⟩
  | some g => simp [Graph.triples_deleteAll, Quad.mem_triplesIn]

/-- A graph of which no triple is to be deleted stays the same. -/
theorem graph?_deleteQuads_of_untouched {qs : List Quad} (h : ∀ t, ⟨t, name⟩ ∉ qs) :
    (d.deleteQuads qs).graph? name = d.graph? name := by
  have hnone : Quad.triplesIn qs name = [] := List.eq_nil_iff_forall_not_mem.2 fun t ht => h t (Quad.mem_triplesIn.1 ht)
  rw [graph?_deleteQuads, hnone]
  exact Option.map_id'

/-- The graph of a name, or the empty one that is created for it. -/
def graphOrNew (d : Dataset) : GraphName → Graph
  | .default => d.default
  | .named iri => (d.named? iri).getD (.empty iri (d.newCapabilities iri))

/-- A graph made for want of one is empty, as a missing graph is. -/
theorem triples_graphOrNew (d : Dataset) (name : GraphName) :
    (d.graphOrNew name).triples = (d.graph name).triples := by
  cases name with
  | default => rfl
  | named iri =>
    rw [graphOrNew, graph, graph?]
    cases d.named? iri <;> rfl

/-- After a graph is ensured it is looked up, the others as before. -/
theorem graph?_ensure (d : Dataset) (name other : GraphName) :
    (d.ensure name).graph? other = if name = other then some (d.graphOrNew name) else d.graph? other := by
  cases name with
  | default =>
    cases other with
    | default => rfl
    | named iri => rfl
  | named iri =>
    cases hn : d.named? iri with
    | some g =>
      have hsame : d.ensure (.named iri) = d := by
        rw [ensure, create_of_hasNamed (by rw [hasNamed, hn]; rfl)]
      rw [hsame, graphOrNew, hn]
      split
      · rename_i hother
        rw [← hother]
        exact hn
      · rfl
    | none =>
      have hnew : d.ensure (.named iri) =
          { d with named := d.named ++ [(iri, .empty iri (d.newCapabilities iri))] } := by
        simp [ensure, create, add?, hasNamed, hn]
      rw [hnew, graphOrNew, hn]
      cases other with
      | default => rfl
      | named i =>
        rw [graph?, named?, List.lookup_append]
        by_cases hi : iri = i
        · subst hi
          rw [← named?, hn]
          simp
        · rw [List.lookup_cons, beq_false_of_ne (Ne.symm hi)]
          simp [hi, graph?, named?]

/-- Creating a graph takes none away. -/
theorem hasNamed_of_create {e : Dataset} {iri other : Iri} (h : d.create iri = .ok e)
    (hother : d.hasNamed other = true) : e.hasNamed other = true := by
  have he : d.ensure (.named iri) = e := by rw [ensure, h]
  have hgraph : (e.graph? (.named other)).isSome = true := by
    rw [← he, graph?_ensure]
    split
    · rfl
    · exact hother
  exact hgraph

/-- Inserting a quad puts its triple into its graph, which is created if it is not there. -/
theorem graph?_insertQuad (d : Dataset) (q : Quad) (other : GraphName) :
    (d.insertQuad q).graph? other =
      if q.graph = other then some ((d.graphOrNew q.graph).insert q.triple) else d.graph? other := by
  rw [insertQuad, graph?_modify, graph?_ensure]
  split
  · rfl
  · exact Option.map_id'

/-- An inserted quad is in its graph, and nothing else is new. -/
theorem mem_insertQuad {q : Quad} :
    t ∈ ((d.insertQuad q).graph name).triples ↔ t ∈ (d.graph name).triples ∨ q = ⟨t, name⟩ := by
  obtain ⟨u, target⟩ := q
  rw [mem_graph_iff, graph?_insertQuad, Quad.mk.injEq]
  by_cases htarget : target = name
  · subst htarget
    simp [Graph.mem_insert, triples_graphOrNew]
  · simp [htarget, mem_graph_iff]

/-- Inserting a quad creates its graph and no other. -/
theorem hasGraph_insertQuad {q : Quad} : (d.insertQuad q).hasGraph name ↔ d.hasGraph name ∨ q.graph = name := by
  rw [hasGraph, hasGraph, graph?_insertQuad]
  split
  · simp [*]
  · simp [*]

/-- Inserted quads are in their graphs, and nothing else is new. -/
theorem mem_insertQuads {qs : List Quad} :
    t ∈ ((d.insertQuads qs).graph name).triples ↔ t ∈ (d.graph name).triples ∨ ⟨t, name⟩ ∈ qs := by
  induction qs generalizing d with
  | nil => simp [insertQuads]
  | cons q qs ih =>
    rw [insertQuads, List.foldl_cons]
    change t ∈ (((d.insertQuad q).insertQuads qs).graph name).triples ↔ _
    rw [ih, mem_insertQuad, List.mem_cons, or_assoc, eq_comm]

/-- Inserting quads creates their graphs and no others. -/
theorem hasGraph_insertQuads {qs : List Quad} :
    (d.insertQuads qs).hasGraph name ↔ d.hasGraph name ∨ ∃ t, ⟨t, name⟩ ∈ qs := by
  induction qs generalizing d with
  | nil => simp [insertQuads]
  | cons q qs ih =>
    change ((d.insertQuad q).insertQuads qs).hasGraph name ↔ _
    have hhead : q.graph = name ↔ ∃ t, ⟨t, name⟩ = q :=
      ⟨fun h => ⟨q.triple, by rw [← h]⟩, fun ⟨t, h⟩ => by rw [← h]⟩
    simp only [ih, hasGraph_insertQuad, or_assoc, hhead, List.mem_cons, exists_or]

/-- A graph into which no triple is to be inserted stays the same. -/
theorem graph?_insertQuads_of_untouched {qs : List Quad} (h : ∀ t, ⟨t, name⟩ ∉ qs) :
    (d.insertQuads qs).graph? name = d.graph? name := by
  induction qs generalizing d with
  | nil => rfl
  | cons q qs ih =>
    have hq : q.graph ≠ name := by
      rintro rfl
      exact h q.triple List.mem_cons_self
    have hrest := ih (d := d.insertQuad q) fun t ht => h t (List.mem_cons_of_mem q ht)
    rw [graph?_insertQuad, if_neg hq] at hrest
    exact hrest

end Dataset

end SparqlAlgebra

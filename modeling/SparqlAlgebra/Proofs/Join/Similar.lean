import SparqlAlgebra.Join.Bound
import SparqlAlgebra.Proofs.Stage.Steady

/-!
# Look-ups in graphs that are the same

A look-up reads nothing but the graphs that it refers to. Where these are the same, it cannot be told apart from
the same look-up in another store, and it leaves every store as it is. The joins make similar stages of similar
ones, provided that the look-ups that may be kept are similar.
-/

namespace SparqlAlgebra

open Stage

variable {R : Store → Store → Prop} {d d' : Dataset} {r : GraphRef} {c : Settings} {g : Engine}
  {p : TriplePattern} {ps : List TriplePattern}

namespace GraphRef

/-- Both datasets have the same graphs under the names of a reference. -/
def SameIn (r : GraphRef) (d d' : Dataset) : Prop := ∀ name ∈ r.leaves, d.graph name = d'.graph name

/-- A reference stands for the same graph in the same dataset. -/
theorem SameIn.of_eq (r : GraphRef) (h : d = d') : r.SameIn d d' := fun _ _ => by rw [h]

/-- A reference has the same name where it stands for the same graph. -/
theorem SameIn.iri (h : r.SameIn d d') : r.iri d = r.iri d' := by
  cases r with
  | single name =>
    have hn : d.graph name = d'.graph name := h name (by simp [leaves])
    rw [GraphRef.iri, GraphRef.iri, hn]
  | union members => rfl

/-- The first member of a union is the same graph if the union is. -/
theorem SameIn.head {m : GraphRef} {ms : List GraphRef} (h : (GraphRef.union (m :: ms)).SameIn d d') :
    m.SameIn d d' := by
  intro name hn
  refine h name ?_
  rw [leaves, leavesOfAll]
  exact List.mem_append_left _ hn

/-- The other members of a union are the same graphs if the union is. -/
theorem SameIn.tail {m : GraphRef} {ms : List GraphRef} (h : (GraphRef.union (m :: ms)).SameIn d d') :
    (GraphRef.union ms).SameIn d d' := by
  intro name hn
  refine h name ?_
  rw [leaves, leavesOfAll]
  exact List.mem_append_right _ (by rwa [leaves] at hn)

mutual

/-- Whether a graph can estimate depends only on this graph. -/
theorem canEstimate_congr : (r : GraphRef) → r.SameIn d d' → r.canEstimate d = r.canEstimate d'
  | .single name, h => by
    have hn : d.graph name = d'.graph name := h name (by simp [leaves])
    rw [canEstimate, canEstimate, hn]
  | .union members, h => by
    rw [canEstimate, canEstimate, allCanEstimate_congr members h]

/-- Whether all members can depends only on them. -/
theorem allCanEstimate_congr :
    (ms : List GraphRef) → (GraphRef.union ms).SameIn d d' → allCanEstimate d ms = allCanEstimate d' ms
  | [], _ => rfl
  | m :: ms, h => by
    rw [allCanEstimate, allCanEstimate, canEstimate_congr m h.head, allCanEstimate_congr ms h.tail]

end

/-- The capabilities of a graph depend only on this graph. -/
theorem SameIn.capabilities (h : r.SameIn d d') : r.capabilities d = r.capabilities d' := by
  cases r with
  | single name =>
    have hn : d.graph name = d'.graph name := h name (by simp [leaves])
    rw [GraphRef.capabilities, GraphRef.capabilities, hn]
  | union members => rw [GraphRef.capabilities, GraphRef.capabilities, canEstimate_congr _ h]

mutual

/-- The estimates of a graph depend only on this graph. -/
theorem estimate_congr (p : TriplePattern) : (r : GraphRef) → r.SameIn d d' → r.estimate d p = r.estimate d' p
  | .single name, h => by
    have hn : d.graph name = d'.graph name := h name (by simp [leaves])
    rw [estimate, estimate, hn]
  | .union members, h => by
    rw [estimate, estimate, estimateAll_congr p members h]

/-- The estimates of several graphs agree where the graphs are the same. -/
theorem estimateAll_congr (p : TriplePattern) :
    (ms : List GraphRef) → (GraphRef.union ms).SameIn d d' → estimateAll d p ms = estimateAll d' p ms
  | [], _ => rfl
  | m :: ms, h => by
    rw [estimateAll, estimateAll, estimate_congr p m h.head, estimateAll_congr p ms h.tail]

end

mutual

/-- Where a graph is the same, the same triples are found in it. -/
theorem similar_find (g : Engine) (p : TriplePattern) :
    (r : GraphRef) → (∀ s t, R s t → r.SameIn s.dataset t.dataset) → Similar R (r.find g p) (r.find g p)
  | .single name, h => by
    refine .read fun s t hR => ?_
    have hn : s.dataset.graph name = t.dataset.graph name := h s t hR name (by simp [leaves])
    rw [hn]
    exact Similar.ofList _ s t hR
  | .union members, h => g.similar_distinct id (g.similar_merge (similar_findAll g p members h))

/-- Where the members of a union are the same, the same triples are found in them. -/
theorem similar_findAll (g : Engine) (p : TriplePattern) :
    (ms : List GraphRef) → (∀ s t, R s t → (GraphRef.union ms).SameIn s.dataset t.dataset) →
      List.Forall₂ (Similar R) (findAll g p ms) (findAll g p ms)
  | [], _ => .nil
  | m :: ms, h =>
    .cons (similar_find g p m fun s t hR => (h s t hR).head)
      (similar_findAll g p ms fun s t hR => (h s t hR).tail)

end

mutual

/-- Finding triples changes nothing. -/
theorem steady_find (g : Engine) (p : TriplePattern) : (r : GraphRef) → Steady R (r.find g p)
  | .single _ => .read fun s t hR => Steady.ofList _ s t hR
  | .union members => g.steady_distinct id (g.steady_merge (steady_findAll g p members))

/-- Finding triples in several graphs changes nothing. -/
theorem steady_findAll (g : Engine) (p : TriplePattern) :
    (ms : List GraphRef) → ∀ f ∈ findAll g p ms, Steady R f
  | [], _, hf => nomatch hf
  | m :: ms, f, hf => by
    rcases List.mem_cons.1 hf with rfl | hf
    · exact steady_find g p m
    · exact steady_findAll g p ms f hf

end

end GraphRef

namespace Join

/-- The order by estimates depends only on the graph. -/
theorem orderByEstimate_congr (h : r.SameIn d d') (ps : List TriplePattern) :
    orderByEstimate d r ps = orderByEstimate d' r ps := by
  have he : (fun p => r.estimate d p) = fun p => r.estimate d' p :=
    funext fun p => GraphRef.estimate_congr p r h
  rw [orderByEstimate, orderByEstimate, he]

/-- In the same graph related rows are joined with a pattern alike. -/
theorem similar_index (h : ∀ s t, R s t → r.SameIn s.dataset t.dataset) (p : TriplePattern)
    {a b : Flow Solution} (hab : Similar R a b) : Similar R (index g r p a) (index g r p b) := by
  refine g.similar_mergeMap (fun s => ?_) hab
  have hf := GraphRef.similar_find g (p.bind s) r h
  dsimp only
  split
  · exact g.similar_map _ (g.similar_limit 1 hf)
  · exact g.similar_filterMap _ hf

/-- In the same graph related rows are joined with several patterns alike. -/
theorem similar_indexAll (h : ∀ s t, R s t → r.SameIn s.dataset t.dataset) (ps : List TriplePattern)
    {a b : Flow Solution} (hab : Similar R a b) : Similar R (indexAll g r ps a) (indexAll g r ps b) := by
  induction ps generalizing a b with
  | nil => exact hab
  | cons p ps ih => exact ih (similar_index h p hab)

/-- Patterns that are evaluated where the graphs are the same have the same solutions in the same order. -/
theorem similar_bgp (h : ∀ s t, R s t → r.SameIn s.dataset t.dataset) (c : Settings) (ps : List TriplePattern) :
    Similar R (bgp c r ps) (bgp c r ps) := by
  have hall : ∀ qs, Similar R (indexAll c.engine r qs (.ofList [.empty])) (indexAll c.engine r qs (.ofList [.empty])) :=
    fun qs => similar_indexAll h qs (.ofList _)
  unfold bgp
  split
  · exact .ofList _
  · refine .read fun s t hR => ?_
    rw [(h s t hR).capabilities, orderByEstimate_congr (h s t hR)]
    split
    · split
      · exact hall _ s t hR
      · exact Similar.fail _ s t hR
    · split
      · exact hall _ s t hR
      · exact hall _ s t hR

/-- Joining with a pattern changes nothing on its own. -/
theorem steady_index (p : TriplePattern) {a : Flow Solution} (ha : Steady R a) : Steady R (index g r p a) := by
  refine g.steady_mergeMap (fun s => ?_) ha
  have hf : Steady R (r.find g (p.bind s)) := GraphRef.steady_find g (p.bind s) r
  dsimp only
  split
  · exact g.steady_map _ (g.steady_limit_succ 0 hf)
  · exact g.steady_filterMap _ hf

/-- Joining with several patterns changes nothing on its own. -/
theorem steady_indexAll (ps : List TriplePattern) {a : Flow Solution} (ha : Steady R a) :
    Steady R (indexAll g r ps a) := by
  induction ps generalizing a with
  | nil => exact ha
  | cons p ps ih => exact ih (steady_index p ha)

/-- Evaluating patterns leaves the store as it is. -/
theorem steady_bgp (c : Settings) (r : GraphRef) (ps : List TriplePattern) : Steady R (bgp c r ps) := by
  have hall : ∀ qs, Steady R (indexAll c.engine r qs (.ofList [.empty])) := fun qs => steady_indexAll qs (.ofList _)
  unfold bgp
  split
  · exact .ofList _
  · refine .read fun s t hR => ?_
    split
    · split
      · exact hall _ s t hR
      · exact .item fun _ _ _ => .done
    · split
      · exact hall _ s t hR
      · exact hall _ s t hR

/-! ## Joins -/

section Joins

variable (h : ∀ s t, R s t → r.SameIn s.dataset t.dataset) (hc : Similar R (cachedBgp c r ps) (cachedBgp c r ps))
include h hc

/-- Where look-ups do not tell related stores apart, nested joins do not either. -/
theorem similar_nested {a b : Flow Solution} (hab : Similar R a b) :
    Similar R (nested c r ps a) (nested c r ps b) := by
  refine c.engine.similar_mergeMap (fun s => ?_) hab
  split
  · exact hc
  · exact c.engine.similar_filterMap _ (similar_bgp h c _)

/-- Where look-ups do not tell related stores apart, batches do not either. -/
theorem similar_batch (rows : List Solution) : Similar R (batch c r ps rows) (batch c r ps rows) := by
  have hchecks : ∀ f ∈ batchChecks c r ps rows, Similar R f f := by
    intro f hf
    obtain ⟨s, -, hs⟩ := List.mem_filterMap.1 hf
    dsimp only at hs
    split at hs
    · rw [← Option.some.inj hs]
      exact c.engine.similar_filterMap _ (similar_bgp h c _)
    · cases hs
  have hunion : ∀ bgps, Similar R (union c r bgps) (union c r bgps) := by
    intro bgps
    refine c.engine.similar_merge (List.forall₂_same.2 fun f hf => ?_)
    obtain ⟨qs, -, rfl⟩ := List.mem_map.1 hf
    exact similar_bgp h c qs
  unfold batch
  split
  · exact hc
  · refine c.engine.similar_merge (List.forall₂_same.2 fun f hf => ?_)
    rcases List.mem_append.1 hf with hf | hf
    · exact hchecks f hf
    · split at hf
      · cases hf
      · rw [List.mem_singleton.1 hf]
        exact c.engine.similar_filterMap _ (hunion _)

/-- Where look-ups do not tell related stores apart, bound joins do not either. -/
theorem similar_bound {a b : Flow Solution} (hab : Similar R a b) :
    Similar R (bound c r ps a) (bound c r ps b) := by
  refine .read fun s t hR => ?_
  rw [(h s t hR).capabilities]
  split
  · exact c.engine.similar_mergeMap (similar_batch h hc) (c.engine.similar_buffer _ hab) s t hR
  · exact similar_nested h hc hab s t hR

end Joins

end Join

end SparqlAlgebra

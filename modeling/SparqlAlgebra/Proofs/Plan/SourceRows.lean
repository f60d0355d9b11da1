import SparqlAlgebra.Proofs.Plan.GraphVariable
import SparqlAlgebra.Proofs.Plan.Local
import SparqlAlgebra.Proofs.Plan.RowWise

/-!
# Rows do not influence each other

Rows are batched, tested and tagged together, and tables that are the same for all of them are evaluated once. As long
as no values are drawn, no graph is created and the look-ups are answered as they should be, none of this shows: the
solutions over two lists of rows, one after the other, are the solutions over either of them. Whatever is evaluated
anew for each row may be any pattern, even one that depends on the order of its own rows. A graph that is created for
one row, however, is there for the next one.
-/

namespace SparqlAlgebra

open Stage

/-- Whether a pattern is put together only from what evaluates patterns row by row, for each row anew or once for all
of them, and draws no values. -/
def Pattern.isRowWise : Pattern → Bool
  | .bgp _ | .path .. | .values .. => true
  | .join a b => a.isRowWise && b.isRowWise
  | .leftJoin a b none => a.isRowWise && b.isSteady
  | .leftJoin a b (some e) => a.isRowWise && b.isSteady && (e.isSteady && e.testsAreSteady)
  | .filter e inner | .extend inner _ e => e.isSteady && e.testsAreSteady && inner.isRowWise
  | .union a b => a.isSteady && b.isSteady
  | .minus a b => a.isRowWise && b.isSteady
  | .graph (.iri _) inner => inner.isRowWise
  | .project inner _ => inner.isSteady
  | .graph (.var _) _ | .orderBy .. | .distinct _ | .reduced _ | .slice .. | .group .. | .service .. => false

variable {P : Store → Prop} {c : Scope} {d : Dataset}

/-- Touching this leaves the graphs as they are, and look-ups deliver the solutions of their patterns. -/
def Touch.Harmless (P : Store → Prop) (c : Scope) (d : Dataset) : Touch → Prop
  | .lookup a qs => ∀ r, c.Shows d r a → Join.Answered P c.settings d r qs
  | .create iri => d.hasNamed iri = true
  | .anywhere => False

/-- If look-ups are answered and no graph is created, all that is touched is harmless. -/
theorem Touch.harmless_of_answers {xs : List Touch} (ha : Pattern.Answers P c d xs)
    (hx : ∀ x ∈ xs, x.CreatesNone d) : ∀ x ∈ xs, x.Harmless P c d := by
  intro x hmem
  have hnone := hx x hmem
  cases x with
  | lookup a qs => exact fun r hr => ha a qs r hmem hr
  | create iri => exact hnone
  | anywhere => exact hnone

/-- The active graph does not matter. -/
theorem Touch.Harmless.withActive {x : Touch} (h : x.Harmless P c d) (a : ActiveGraph) :
    x.Harmless P (c.withActive a) d := by
  cases x <;> exact h

section Harmless

variable (hd : ∀ s, P s → s.dataset = d)
include hd

/-- What is harmless in stores of one dataset hides the differences between these. -/
theorem Touch.Harmless.hides {x : Touch} (h : x.Harmless P c d) : x.Hides (Both P) c := by
  cases x with
  | lookup a qs =>
    intro s t r hst hr
    obtain ⟨out, hout, -⟩ := (h r (hd s hst.1 ▸ hr)).cached
    exact hout.selfSimilar
  | create iri => exact Plan.creates_of_hasNamed fun s t hst => (hd s hst.1).symm ▸ h
  | anywhere => exact h.elim

/-- The items of such a pattern do not depend on the store. -/
theorem Pattern.similar_of_harmless {p : Pattern} (hp : p.isSteady = true)
    (h : ∀ x ∈ p.touches c.active, x.Harmless P c d) : Plan.Similar (Both P) c p.plan :=
  p.similar_plan (Both.dataset_eq hd) _ _ ⟨fun x hx => (h x hx).hides hd, .inl hp⟩ (.refl _)

/-- The items of the tests of an expression do not depend on the store where its touches are harmless. -/
theorem Expression.similar_of_harmless {e : Expression} (he : e.testsAreSteady = true)
    (h : ∀ x ∈ e.touches c.active, x.Harmless P c d) : ∀ p ∈ e.tests, Plan.Similar (Both P) c p :=
  e.similar_tests (Both.dataset_eq hd) _ _ ⟨fun x hx => (h x hx).hides hd, .inl he⟩ (.refl _)

/-- The plan of such a pattern has a bag for each row. -/
theorem Pattern.rowWise_plan : (p : Pattern) → p.isRowWise = true → (c : Scope) →
    c.settings.hints.batchSize < 2 ^ 64 → (∀ x ∈ p.touches c.active, x.Harmless P c d) →
    Build.RowWise P (p.plan c)
  | .bgp ps, _, c, hb, h => by
    rw [Pattern.touches, List.forall_mem_map] at h
    rw [Pattern.plan]
    exact Plan.rowWise_bgp hd hb h
  | .path x p y, _, c, _, _ => by
    rw [Pattern.plan]
    exact Plan.rowWise_paths hd _
  | .values vs rows, _, c, _, _ => by
    rw [Pattern.plan]
    exact Plan.rowWise_values vs rows
  | .join a b, hp, c, hb, h => by
    rw [Pattern.isRowWise, Bool.and_eq_true] at hp
    rw [Pattern.touches, List.forall_mem_append] at h
    rw [Pattern.plan]
    exact Plan.rowWise_join (a.rowWise_plan hp.1 c hb h.1) (b.rowWise_plan hp.2 c hb h.2)
  | .leftJoin a b none, hp, c, hb, h => by
    rw [Pattern.isRowWise, Bool.and_eq_true] at hp
    rw [Pattern.touches, List.forall_mem_append] at h
    rw [Pattern.plan]
    exact Plan.rowWise_leftJoin (a.rowWise_plan hp.1 c hb h.1) (b.similar_of_harmless hd hp.2 h.2)
      (fun _ he => absurd he (Option.not_mem_none _))
  | .leftJoin a b (some e), hp, c, hb, h => by
    simp only [Pattern.isRowWise, Bool.and_eq_true] at hp
    rw [Pattern.touches, List.forall_mem_append, List.forall_mem_append] at h
    obtain ⟨⟨ha, hright⟩, he, htests⟩ := hp
    rw [Pattern.plan]
    refine Plan.rowWise_leftJoin (a.rowWise_plan ha c hb h.1.1) (b.similar_of_harmless hd hright h.1.2) ?_
    rintro _ ⟨⟩
    exact ⟨.of_isSteady (.inl he), e.similar_of_harmless hd htests h.2⟩
  | .filter e inner, hp, c, hb, h => by
    simp only [Pattern.isRowWise, Bool.and_eq_true] at hp
    rw [Pattern.touches, List.forall_mem_append] at h
    obtain ⟨⟨he, htests⟩, hinner⟩ := hp
    rw [Pattern.plan]
    exact Plan.rowWise_filter (e.similar_of_harmless hd htests h.1) he (inner.rowWise_plan hinner c hb h.2)
  | .extend inner v e, hp, c, hb, h => by
    simp only [Pattern.isRowWise, Bool.and_eq_true] at hp
    rw [Pattern.touches, List.forall_mem_append] at h
    obtain ⟨⟨he, htests⟩, hinner⟩ := hp
    rw [Pattern.plan]
    exact Plan.rowWise_extend (e.similar_of_harmless hd htests h.1) v he (inner.rowWise_plan hinner c hb h.2)
  | .union a b, hp, c, _, h => by
    rw [Pattern.isRowWise, Bool.and_eq_true] at hp
    rw [Pattern.touches, List.forall_mem_append] at h
    rw [Pattern.plan]
    exact Plan.rowWise_union (a.similar_of_harmless hd hp.1 h.1) (b.similar_of_harmless hd hp.2 h.2)
  | .minus a b, hp, c, hb, h => by
    rw [Pattern.isRowWise, Bool.and_eq_true] at hp
    rw [Pattern.touches, List.forall_mem_append] at h
    rw [Pattern.plan]
    exact Plan.rowWise_minus (a.rowWise_plan hp.1 c hb h.1) (b.similar_of_harmless hd hp.2 h.2)
  | .graph (.iri iri) inner, hp, c, hb, h => by
    rw [Pattern.isRowWise] at hp
    rw [Pattern.touches] at h
    rw [Pattern.plan]
    -- The scope of the graph has the same settings.
    exact Plan.rowWise_graph hd
      (inner.rowWise_plan hp (c.withActive (.named iri)) hb fun x hx => (h x hx).withActive (.named iri))
  | .project inner vs, hp, c, _, h => by
    rw [Pattern.isRowWise] at hp
    rw [Pattern.touches] at h
    rw [Pattern.plan]
    exact Plan.rowWise_project vs (inner.similar_of_harmless hd hp h)

end Harmless

/-- Collecting what works row by row from two lists of rows at once gives what it gives from either of them. -/
theorem Build.RowWise.perm_append {b : Flow Solution → Build (Flow Solution)} (h : Build.RowWise P b) {st : Store}
    (hst : P st) {xs ys rows rows₁ rows₂ : List Solution}
    (hrows : ((b (.ofList (xs ++ ys)) >>= Plan.collect).run st).1 = .ok rows)
    (hrows₁ : ((b (.ofList xs) >>= Plan.collect).run st).1 = .ok rows₁)
    (hrows₂ : ((b (.ofList ys) >>= Plan.collect).run st).1 = .ok rows₂) : rows.Perm (rows₁ ++ rows₂) := by
  obtain ⟨F, hF⟩ := h
  have hbag : ∀ {zs out : List Solution}, ((b (.ofList zs) >>= Plan.collect).run st).1 = .ok out →
      (out : Multiset Solution) = (zs : Multiset Solution).bind F := by
    intro zs out hout
    have hends : Ends P True (Holds ((zs : Multiset Solution).bind F)) ((b (.ofList zs) >>= Plan.collect).run st) :=
      (hF _ _ (.ofList zs)).bind (fun stage hstage => hstage.runs) st hst
    rcases hrun : (b (.ofList zs) >>= Plan.collect).run st with ⟨e | out', t⟩
    · rw [hrun] at hout
      cases hout
    · rw [hrun] at hout hends
      cases hout
      exact hends.2
  refine Multiset.coe_eq_coe.1 ?_
  rw [hbag hrows, ← Multiset.coe_add, ← Multiset.coe_add, Multiset.add_bind, hbag hrows₁, hbag hrows₂]

namespace Pattern

variable {p : Pattern} {st : Store} {xs ys rows rows₁ rows₂ : List Solution}

/-- Rows do not influence each other: the solutions of a pattern over two lists of rows, one after the other, are its
solutions over either of them, in some order, if no evaluation fails. The pattern may be anything that is put together
from basic graph patterns with their searches, paths, values, joins, optional joins, differences, unions, filters,
extensions, projections and graphs of a given name, without volatile functions, as long as its services create no graph
and the solutions that have been kept are current. -/
theorem collected_append (hp : p.isRowWise = true) (hservices : ∀ x ∈ p.touches c.active, x.CreatesNone st.dataset)
    (hb : c.settings.hints.batchSize < 2 ^ 64)
    (hkept : st.cache = none ∨ ToldApart st.dataset (c.lookups st.dataset (p.touches c.active)) ∧
      ∀ e ∈ st.kept, Current st.dataset (c.lookups st.dataset (p.touches c.active)) e)
    (hrows : ((p.plan c (.ofList (xs ++ ys)) >>= Plan.collect).run st).1 = .ok rows)
    (hrows₁ : ((p.plan c (.ofList xs) >>= Plan.collect).run st).1 = .ok rows₁)
    (hrows₂ : ((p.plan c (.ofList ys) >>= Plan.collect).run st).1 = .ok rows₂) : rows.Perm (rows₁ ++ rows₂) := by
  obtain ⟨P, hst, hP, hanswers⟩ := exists_answers hkept
  have hplan : Build.RowWise P (p.plan c) := p.rowWise_plan hP hp c hb (Touch.harmless_of_answers hanswers hservices)
  exact hplan.perm_append hst hrows hrows₁ hrows₂

/-- Who knows somebody who knows somebody, for a row that names the first one and a row that does not, in one batch. -/
theorem collected_append_acquaintances :
    let knows : Iri := ⟨"http://example.com/knows"⟩
    let x : Variable := ⟨"x"⟩
    let y : Variable := ⟨"y"⟩
    let a : Resource := .iri ⟨"http://example.com/a"⟩
    let b : Resource := .iri ⟨"http://example.com/b"⟩
    let e : Resource := .iri ⟨"http://example.com/e"⟩
    let st : Store :=
      ⟨⟨(Graph.empty defaultGraphIri ⟨true, true⟩).insertAll
        [⟨a, knows, b.toTerm⟩, ⟨b, knows, a.toTerm⟩, ⟨b, knows, e.toTerm⟩], [], fun _ => ⟨true, true⟩⟩, none, 0⟩
    let c : Scope := ⟨⟨.streaming, ⟨2, .structural, true⟩⟩, ⟨[], .iri knows⟩, .default, none⟩
    let p : Pattern :=
      .filter (.hasSolution (.bgp [⟨.var y, .iri knows, .var ⟨"z"⟩⟩])) (.bgp [⟨.var x, .iri knows, .var y⟩])
    let xs : List Solution := [Solution.empty.insert x a.toTerm]
    let row : Resource → Resource → Solution := fun r s => (Solution.empty.insert x r.toTerm).insert y s.toTerm
    p.isRowWise = true ∧ (∀ t ∈ p.touches c.active, t.CreatesNone st.dataset) ∧
      c.settings.hints.batchSize < 2 ^ 64 ∧
      (st.cache = none ∨ ToldApart st.dataset (c.lookups st.dataset (p.touches c.active)) ∧
        ∀ e ∈ st.kept, Current st.dataset (c.lookups st.dataset (p.touches c.active)) e) ∧
      ((p.plan c (.ofList (xs ++ [.empty])) >>= Plan.collect).run st).1 = .ok [row a b, row a b, row b a] ∧
      ((p.plan c (.ofList xs) >>= Plan.collect).run st).1 = .ok [row a b] ∧
      ((p.plan c (.ofList [.empty]) >>= Plan.collect).run st).1 = .ok [row a b, row b a] ∧
      [row a b, row a b, row b a].Perm ([row a b] ++ [row a b, row b a]) := by
  intro knows x y a b e st c p xs row
  have hp : p.isRowWise = true := by decide
  have hservices : ∀ t ∈ p.touches c.active, t.CreatesNone st.dataset := p.createsNone_of_isLocal (by decide) _
  have hb : c.settings.hints.batchSize < 2 ^ 64 := by decide
  have hkept : st.cache = none ∨ ToldApart st.dataset (c.lookups st.dataset (p.touches c.active)) ∧
      ∀ e ∈ st.kept, Current st.dataset (c.lookups st.dataset (p.touches c.active)) e := .inl rfl
  have hrows : ((p.plan c (.ofList (xs ++ [.empty])) >>= Plan.collect).run st).1 =
      .ok [row a b, row a b, row b a] := by decide +kernel
  have hrows₁ : ((p.plan c (.ofList xs) >>= Plan.collect).run st).1 = .ok [row a b] := by decide +kernel
  have hrows₂ : ((p.plan c (.ofList [.empty]) >>= Plan.collect).run st).1 = .ok [row a b, row b a] := by
    decide +kernel
  exact ⟨hp, hservices, hb, hkept, hrows, hrows₁, hrows₂,
    collected_append hp hservices hb hkept hrows hrows₁ hrows₂⟩

/-- The graph of a service that the first row has created is found by the second row, which finds none if it comes
alone. -/
theorem created_graph_found_by_next_row :
    let new : Iri := ⟨"http://example.com/new"⟩
    let g : Variable := ⟨"g"⟩
    let x : Variable := ⟨"x"⟩
    let st : Store := ⟨⟨.empty defaultGraphIri ⟨true, true⟩, [], fun _ => ⟨true, true⟩⟩, none, 0⟩
    let c : Scope := ⟨⟨.streaming, ⟨1, .structural, false⟩⟩, ⟨[], .iri new⟩, .default, none⟩
    let p : Pattern := .union (.project (.graph (.var g) (.bgp [])) [g])
      (.project (.join (.values [x] [[some (.iri new)]]) (.service (.var x) (.bgp []) false)) [])
    let rows : List Solution := [.empty, Solution.empty.insert g (.iri new), .empty]
    p.isRowWise = true ∧
      ((p.plan c (.ofList ([.empty] ++ [.empty])) >>= Plan.collect).run st).1 = .ok rows ∧
      ((p.plan c (.ofList [.empty]) >>= Plan.collect).run st).1 = .ok [.empty] ∧
      ¬ rows.Perm ([.empty] ++ [.empty]) := by
  intro new g x st c p rows
  have hlength : ¬ rows.length = ([.empty] ++ [.empty] : List Solution).length := by decide
  exact ⟨by decide, by decide +kernel, by decide +kernel, fun hperm => hlength hperm.length_eq⟩

end Pattern

end SparqlAlgebra

import SparqlAlgebra.Plan.Pattern
import SparqlAlgebra.Proofs.Join.Lookup
import SparqlAlgebra.Proofs.Path.Solutions

/-!
# The meaning of patterns

Patterns made of basic graph patterns, paths, tables of values, joins, unions, graphs and projections mean bags of
solutions, built bottom-up from their parts. Blank nodes are local variables of their pattern and do not show.
-/

namespace SparqlAlgebra

open Solution

namespace HiddenVariable

variable {s m : Solution} {v : Variable} {vs : List Variable}

/-- A variable with a reserved name. -/
def IsHidden (v : Variable) : Prop := ∃ b : BlankNode, v = ofNode b

/-- A name that does not begin with an underscore is not reserved. -/
theorem not_isHidden (h : v.name.toList.head? ≠ some '_') : ¬ IsHidden v := by
  rintro ⟨b, rfl⟩
  simp [ofNode] at h

/-- Removes the bindings of some variables. -/
def hide (vs : List Variable) (s : Solution) : Solution := s.filter fun v _ => !vs.contains v

/-- Hiding variables takes their bindings away. -/
@[simp] theorem get?_hide : (hide vs s).get? v = if v ∈ vs then none else s.get? v := by
  rw [hide, get?_filter]
  by_cases h : v ∈ vs <;> cases s.get? v <;> simp [h]

/-- Hiding no variables changes nothing. -/
theorem hide_nil (s : Solution) : hide [] s = s := by
  refine ext_get? fun v => ?_
  simp

/-- Hiding variables that a solution does not bind commutes with merging with it. -/
theorem merge?_hide (hs : ∀ v ∈ vs, s.get? v = none) (m : Solution) :
    s.merge? (hide vs m) = (s.merge? m).map (hide vs) := by
  have hagree : Agree s (hide vs m) ↔ Agree s m := by
    constructor
    · intro h v t u hst hmu
      by_cases hv : v ∈ vs
      · simp [hs v hv] at hst
      · exact h v t u hst (by simp [hv, hmu])
    · intro h v t u hst hmu
      rw [get?_hide] at hmu
      split at hmu
      · simp at hmu
      · exact h v t u hst hmu
  have hc : s.isCompatible (hide vs m) = s.isCompatible m := by
    rw [Bool.eq_iff_iff, isCompatible_iff, isCompatible_iff, hagree]
  unfold merge?
  rw [hc]
  split
  · rw [Option.map_some, Option.some.injEq]
    refine ext_get? fun v => ?_
    simp only [get?_union, get?_hide]
    split
    · rename_i hv
      simp [hs v hv]
    · rfl
  · rfl

/-- Hiding variables that the other bag does not bind commutes with joins. -/
theorem join_map_hide {A : Multiset Solution} (hA : ∀ s ∈ A, ∀ v ∈ vs, s.get? v = none) (B : Multiset Solution) :
    join A (B.map (hide vs)) = (join A B).map (hide vs) := by
  rw [join, join, Multiset.map_bind]
  refine Multiset.bind_congr fun s hs => ?_
  rw [Multiset.filterMap_map, Multiset.map_filterMap]
  congr 1
  exact funext fun m => merge?_hide (hA s hs) m

/-- A variable of a slot without blank nodes is one of the slot or a hidden one. -/
theorem var?_replaceSlot {x : Slot} {slots : List Slot} (hx : x ∈ slots) (h : (replaceSlot x).var? = some v) :
    x.var? = some v ∨ v ∈ ofSlots slots := by
  cases x with
  | var w => exact .inl h
  | term t =>
    cases t with
    | blank b => exact .inr (List.mem_filterMap.2 ⟨_, hx, h⟩)
    | iri i => simp [replaceSlot, Slot.var?] at h
    | literal l => simp [replaceSlot, Slot.var?] at h

/-- A pattern without blank nodes has the same variables and those that stand for its blank nodes. -/
theorem vars_replace {ps : List TriplePattern} {p : TriplePattern} (hp : p ∈ ps) (hv : v ∈ (replace p).vars) :
    v ∈ p.vars ∨ v ∈ ofPatterns ps := by
  have hs : p.subject ∈ ps.flatMap fun p => [p.subject, p.object] := List.mem_flatMap.2 ⟨p, hp, by simp⟩
  have ho : p.object ∈ ps.flatMap fun p => [p.subject, p.object] := List.mem_flatMap.2 ⟨p, hp, by simp⟩
  rw [TriplePattern.mem_vars] at hv ⊢
  rcases hv with hv | hv | hv
  · exact (var?_replaceSlot hs hv).imp .inl id
  · exact .inl (.inr (.inl hv))
  · exact (var?_replaceSlot ho hv).imp (fun h => .inr (.inr h)) id

/-- What stands for a blank node of a slot is a hidden variable. -/
theorem isHidden_of_mem_ofSlots {slots : List Slot} (h : v ∈ ofSlots slots) : IsHidden v := by
  obtain ⟨x, -, hx⟩ := List.mem_filterMap.1 h
  obtain ⟨b, -, hb⟩ := Option.map_eq_some_iff.1 hx
  exact ⟨b, hb.symm⟩

end HiddenVariable

/-- A solution that binds no variable of a reserved name. -/
def Solution.Plain (s : Solution) : Prop := ∀ v, s.binds v = true → ¬ HiddenVariable.IsHidden v

namespace Pattern

/-- The bag of the solutions of a pattern in a graph, from the bags of its parts. -/
noncomputable def bag (d : Dataset) : Pattern → GraphRef → Multiset Solution
  | .bgp ps, r =>
    (solutions (r.tripleSet d) (ps.map HiddenVariable.replace)).map (HiddenVariable.hide (HiddenVariable.ofPatterns ps))
  | .path x p y, r =>
    ((PathPattern.mk x p y).hide.matchesIn (r.tripleSet d)).map (HiddenVariable.hide (HiddenVariable.ofSlots [x, y]))
  | .join a b, r => Solution.join (a.bag d r) (b.bag d r)
  | .union a b, r => a.bag d r + b.bag d r
  | .values vs rows, _ => rows.map (Plan.rowSolution vs)
  | .graph (.iri iri) inner, _ => inner.bag d (.single (.named iri))
  | .project inner vs, r => (inner.bag d r).map (·.project vs)
  | _, _ => 0

/-- The patterns whose meaning is a join of bags: no searches, no path that may be empty, only graphs that can be
seen, and no variable of a reserved name. -/
inductive Core (visible : Iri → Bool) : Pattern → Prop
  | bgp {ps : List TriplePattern} :
      (∀ p ∈ ps, SearchPlan.isSearchTriple p = false) →
      (∀ p ∈ ps, ∀ v ∈ p.vars, ¬ HiddenVariable.IsHidden v) → Core visible (.bgp ps)
  | path {x y : Slot} {p : Path} :
      p.nullable = false → (∀ v, x.var? = some v ∨ y.var? = some v → ¬ HiddenVariable.IsHidden v) →
      Core visible (.path x p y)
  | join {a b : Pattern} : Core visible a → Core visible b → Core visible (.join a b)
  | union {a b : Pattern} : Core visible a → Core visible b → Core visible (.union a b)
  | values {vs : List Variable} {rows : List (List (Option Term))} :
      (∀ v ∈ vs, ¬ HiddenVariable.IsHidden v) → Core visible (.values vs rows)
  | graph {iri : Iri} {inner : Pattern} :
      visible iri = true → Core visible inner → Core visible (.graph (.iri iri) inner)
  | project {inner : Pattern} {vs : List Variable} : Core visible inner → Core visible (.project inner vs)

variable {visible : Iri → Bool} {p : Pattern} {d : Dataset}

/-- A row of a table binds only the variables of the table. -/
theorem binds_rowSolution {vs : List Variable} {row : List (Option Term)} {v : Variable}
    (h : (Plan.rowSolution vs row).binds v = true) : v ∈ vs := by
  obtain ⟨t, ht⟩ := binds_iff.1 h
  rw [Plan.rowSolution, ofList, get?_foldl_insert, get?_empty, Option.or_none] at ht
  obtain ⟨l₁, l₂, he, -⟩ := List.lookup_eq_some_iff.1 ht
  have hm : (v, t) ∈ l₁ ++ (v, t) :: l₂ := by simp
  rw [← he, List.mem_reverse, List.mem_filterMap] at hm
  obtain ⟨⟨w, o⟩, hz, hw⟩ := hm
  obtain ⟨u, -, hu⟩ := Option.map_eq_some_iff.1 hw
  obtain ⟨rfl, -⟩ := Prod.mk.inj hu
  exact (List.of_mem_zip hz).1

/-- The solutions that a pattern means bind no variable of a reserved name. -/
theorem Core.plain_of_mem_bag {r : GraphRef} {m : Solution} (h : Core visible p) (hm : m ∈ p.bag d r) :
    m.Plain := by
  induction h generalizing r m with
  | bgp _ hvars =>
    obtain ⟨u, hu, rfl⟩ := Multiset.mem_map.1 hm
    intro v hv
    rw [binds, HiddenVariable.get?_hide] at hv
    split at hv
    · simp at hv
    · rename_i hn
      obtain ⟨q, hq, hvq⟩ := (binds_of_mem_solutions hu).1 hv
      obtain ⟨p, hp, rfl⟩ := List.mem_map.1 hq
      exact hvars p hp v ((HiddenVariable.vars_replace hp hvq).resolve_right hn)
  | @path x y p hp hvars =>
    obtain ⟨u, hu, rfl⟩ := Multiset.mem_map.1 hm
    intro v hv
    rw [binds, HiddenVariable.get?_hide] at hv
    split at hv
    · simp at hv
    · rename_i hn
      have hmem := (PathPattern.mem_matchesIn (q := (PathPattern.mk x p y).hide) hp).1 hu
      obtain ⟨e, -, he⟩ := hmem
      obtain ⟨-, -, hdom⟩ := PathPattern.match?_eq_some_iff.1 he
      rcases hdom v hv with h | h
      · exact hvars v (.inl ((HiddenVariable.var?_replaceSlot (by simp) h).resolve_right hn))
      · exact hvars v (.inr ((HiddenVariable.var?_replaceSlot (by simp) h).resolve_right hn))
  | join _ _ iha ihb =>
    obtain ⟨a, ha, b, hb, hab⟩ := mem_join.1 hm
    intro v hv
    exact ((binds_of_merge? hab).1 hv).elim (iha ha v) (ihb hb v)
  | union _ _ iha ihb => exact (Multiset.mem_add.1 hm).elim iha ihb
  | @values vs rows hvs =>
    obtain ⟨row, -, rfl⟩ := List.mem_map.1 (Multiset.mem_coe.1 hm)
    exact fun v hv => hvs v (binds_rowSolution hv)
  | graph _ _ ih => exact ih hm
  | project _ ih =>
    obtain ⟨u, hu, rfl⟩ := Multiset.mem_map.1 hm
    intro v hv
    rw [binds, get?_project] at hv
    split at hv
    · exact ih hu v hv
    · simp at hv

end Pattern

end SparqlAlgebra

import SparqlAlgebra.Proofs.Algebra.GraphVariable

/-!
# Merging a row before or after

The bindings of a row are filled into a pattern before it is evaluated. If the pattern does no more than join its rows
with a bag, a row may as well be merged with the solutions of the pattern afterwards. Where some variables are set or
removed on the way this is so for the rows that do not bind these variables.
-/

namespace SparqlAlgebra

open Solution

variable {s m : Solution} {v : Variable} {vs ws : List Variable} {V : Multiset Solution}

namespace Solution

/-- A variable that a solution does not bind may be set before or after merging with it. -/
theorem merge?_insert (hv : s.get? v = none) (t : Term) :
    s.merge? (m.insert v t) = (s.merge? m).map (·.insert v t) := by
  have hagree : Agree s (m.insert v t) ↔ Agree s m := by
    constructor
    · intro h w x y hsw hmw
      have hw : w ≠ v := by
        rintro rfl
        simp [hv] at hsw
      exact h w x y hsw (by simp [hw, hmw])
    · intro h w x y hsw hmw
      have hw : w ≠ v := by
        rintro rfl
        simp [hv] at hsw
      rw [get?_insert, if_neg hw] at hmw
      exact h w x y hsw hmw
  have hc : s.isCompatible (m.insert v t) = s.isCompatible m := by
    rw [Bool.eq_iff_iff, isCompatible_iff, isCompatible_iff, hagree]
  unfold merge?
  rw [hc]
  split
  · rw [Option.map_some, Option.some.injEq]
    refine ext_get? fun w => ?_
    simp only [get?_union, get?_insert]
    split <;> simp
  · rfl

/-- What can be merged with a solution can be merged with a part of it before. -/
theorem bind_merge?_of_extends (h : Extends s m) (x : Option Solution) :
    (x.bind m.merge?).bind s.merge? = x.bind s.merge? := by
  have hs : s.merge? m = some s := merge?_eq_some_iff_extends.2 ⟨.refl s, h, fun _ => .inl⟩
  rw [Option.bind_assoc]
  refine Option.bind_congr fun u _ => ?_
  rw [← merge?_assoc, hs]
  rfl

/-- Hiding variables that a row does not bind commutes with merging the row with all solutions of a bag. -/
theorem filterMap_map_hide (hs : ∀ v ∈ vs, s.get? v = none) (V : Multiset Solution) :
    (V.map (HiddenVariable.hide vs)).filterMap s.merge? = (V.filterMap s.merge?).map (HiddenVariable.hide vs) := by
  have hsingle : ∀ m ∈ ({s} : Multiset Solution), ∀ v ∈ vs, m.get? v = none := by simpa using hs
  have hjoin := HiddenVariable.join_map_hide hsingle V
  rwa [singleton_join, singleton_join] at hjoin

end Solution

namespace Rows

/-- Each row is treated on its own, and a row that binds none of some variables may be merged with the rows before or
with the results afterwards. -/
structure Carries (vs : List Variable) (F : Rows) : Prop where
  /-- The rows of a bag are treated one by one. -/
  rowWise : ∀ V, F V = V.bind fun s => F {s}
  /-- A row that binds none of the variables may be merged before or afterwards. -/
  merged : ∀ (s : Solution) (V : Multiset Solution), (∀ v ∈ vs, s.get? v = none) →
    F (V.filterMap s.merge?) = (F V).filterMap s.merge?

namespace Carries

variable {F G : Rows}

/-- What a row finds is what the empty row finds, merged with the row. -/
theorem single (h : F.Carries vs) (hs : ∀ v ∈ vs, s.get? v = none) :
    F {s} = (F {Solution.empty}).filterMap s.merge? := by
  rw [← h.merged s _ hs, ← singleton_join, join_empty]

/-- A function that carries variables joins rows without them with what the empty row finds. -/
theorem eq_join (h : F.Carries vs) (hV : ∀ s ∈ V, ∀ v ∈ vs, s.get? v = none) : F V = join V (F {Solution.empty}) := by
  rw [h.rowWise, join]
  exact Multiset.bind_congr fun s hs => h.single (hV s hs)

/-- Joining with a bag sets and removes nothing. -/
theorem join (B : Multiset Solution) : Carries [] fun V => Solution.join V B := by
  refine ⟨fun V => (bind_singleton_join V B).symm, fun s V _ => ?_⟩
  exact filterMap_join s V B

/-- One function after the other. -/
theorem comp (hF : F.Carries vs) (hG : G.Carries ws) : Carries (vs ++ ws) fun V => G (F V) := by
  constructor
  · intro V
    rw [hF.rowWise, hG.rowWise, Multiset.bind_assoc]
    exact Multiset.bind_congr fun s _ => (hG.rowWise _).symm
  · intro s V hs
    rw [List.forall_mem_append] at hs
    rw [hF.merged s V hs.1, hG.merged s _ hs.2]

/-- Both functions for each row. -/
theorem union (hF : F.Carries vs) (hG : G.Carries ws) : Carries (vs ++ ws) (Rows.union F G) := by
  have hadd : ∀ V, Rows.union F G V = F V + G V := by
    intro V
    rw [Rows.union, Multiset.bind_add, ← hF.rowWise, ← hG.rowWise]
  constructor
  · intro V
    rw [Rows.union]
    exact Multiset.bind_congr fun s _ => (hadd {s}).symm
  · intro s V hs
    rw [List.forall_mem_append] at hs
    rw [hadd, hadd, hF.merged s V hs.1, hG.merged s V hs.2, Multiset.filterMap_add]

/-- Variables are removed from the results. -/
theorem hide (hF : F.Carries vs) (hs : List Variable) :
    Carries (hs ++ vs) fun V => (F V).map (HiddenVariable.hide hs) := by
  constructor
  · intro V
    rw [hF.rowWise, Multiset.map_bind]
  · intro s V hsv
    rw [List.forall_mem_append] at hsv
    rw [hF.merged s V hsv.2, filterMap_map_hide hsv.1]

/-- A table is joined. -/
theorem values (ws : List Variable) (table : List (List (Option Term))) : Carries [] (Rows.values ws table) :=
  .join _

/-- A projection is evaluated from scratch and then joined, so nothing is filled into its pattern. -/
theorem project (ws : List Variable) (F : Rows) : Carries [] (Rows.project ws F) :=
  .join _

end Carries

end Rows

end SparqlAlgebra

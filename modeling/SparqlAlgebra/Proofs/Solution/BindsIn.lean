import Mathlib.Data.Set.Basic
import SparqlAlgebra.Proofs.Pattern.Match

/-!
# Solutions that bind variables of a set

No operation on solutions binds a variable that has not been handed to it: matches bind the variables of their
pattern, and merging, filtering and filling in bindings add none.
-/

namespace SparqlAlgebra

variable {W : Set Variable} {v : Variable} {t : Term}

namespace Solution

variable {a b c s : Solution}

/-- All variables that are bound are in the set. -/
def BindsIn (W : Set Variable) (s : Solution) : Prop := ∀ v, s.binds v = true → v ∈ W

/-- More variables may be allowed. -/
theorem BindsIn.mono {W' : Set Variable} (hW : W ⊆ W') (h : s.BindsIn W) : s.BindsIn W' := fun v hv => hW (h v hv)

/-- All variables together are enough. -/
theorem bindsIn_univ (s : Solution) : s.BindsIn Set.univ := fun _ _ => Set.mem_univ _

/-- The empty solution binds nothing. -/
theorem bindsIn_empty : Solution.empty.BindsIn W := by
  intro v hv
  simp [binds] at hv

/-- One more binding needs one more variable. -/
theorem BindsIn.insert (h : s.BindsIn W) (hv : v ∈ W) : (s.insert v t).BindsIn W := by
  intro w hw
  rw [binds, get?_insert] at hw
  split at hw
  · rename_i hwv
    rw [hwv]
    exact hv
  · exact h w hw

/-- Dropping bindings needs no more variables. -/
theorem BindsIn.filter (p : Variable → Term → Bool) (h : s.BindsIn W) : (s.filter p).BindsIn W := by
  intro v hv
  refine h v ?_
  rw [binds, get?_filter] at hv
  rw [binds]
  cases hs : s.get? v with
  | none => simp [hs] at hv
  | some t => rfl

/-- A projection binds what it shows. -/
theorem bindsIn_project {vs : List Variable} (h : ∀ v ∈ vs, v ∈ W) : (s.project vs).BindsIn W := by
  intro v hv
  refine h v ?_
  rw [binds, get?_project] at hv
  split at hv
  · assumption
  · simp at hv

/-- Nothing is lost where only these variables are bound. -/
theorem BindsIn.project_eq {vs : List Variable} (h : s.BindsIn {v | v ∈ vs}) : s.project vs = s := by
  refine ext_get? fun v => ?_
  rw [get?_project]
  split
  · rfl
  · rename_i hv
    cases hs : s.get? v with
    | none => rfl
    | some t => exact absurd (h v (binds_iff.2 ⟨t, hs⟩)) hv

/-- A merge binds what both solutions bind. -/
theorem BindsIn.merge? (ha : a.BindsIn W) (hb : b.BindsIn W) (h : a.merge? b = some c) : c.BindsIn W :=
  fun v hv => ((binds_of_merge? h).1 hv).elim (ha v) (hb v)

/-- A solution made of bindings binds their variables. -/
theorem bindsIn_ofList {bs : List (Variable × Term)} (h : ∀ b ∈ bs, b.1 ∈ W) : (ofList bs).BindsIn W := by
  have hfold : ∀ s : Solution, s.BindsIn W → (bs.foldl (fun s b => s.insert b.1 b.2) s).BindsIn W := by
    induction bs with
    | nil => exact fun s hs => hs
    | cons b bs ih =>
      obtain ⟨hb, hbs⟩ := List.forall_mem_cons.1 h
      exact fun s hs => ih hbs _ (hs.insert hb)
  exact hfold _ bindsIn_empty

end Solution

/-- What is open with a row put in was open before. -/
theorem Slot.var?_of_bind {x : Slot} {s : Solution} (h : (x.bind s).var? = some v) : x.var? = some v := by
  cases x with
  | term t => exact h
  | var w =>
    rw [Slot.bind] at h
    cases hs : s.get? w with
    | none => simpa [hs] using h
    | some t => simp [hs, Slot.var?] at h

/-- What is open in a slot for IRIs with a row put in was open before. -/
theorem IriSlot.var?_of_bind {x : IriSlot} {s : Solution} (h : (x.bind s).var? = some v) : x.var? = some v := by
  cases x with
  | iri i => exact h
  | var w =>
    rw [IriSlot.bind] at h
    split at h
    · cases h
    · exact h

namespace TriplePattern

variable {p : TriplePattern} {triple : Triple} {m s : Solution}

/-- A match binds the variables of the pattern. -/
theorem bindsIn_of_match? (hp : ∀ v ∈ p.vars, v ∈ W) (h : p.match? triple = some m) : m.BindsIn W :=
  fun v hv => hp v (((match?_eq_some_iff.1 h).2 v).1 hv)

/-- Filling in bindings leaves no other variables than there were. -/
theorem vars_bind (p : TriplePattern) (s : Solution) : ∀ v ∈ (p.bind s).vars, v ∈ p.vars := by
  intro v hv
  rw [mem_vars] at hv ⊢
  exact hv.imp Slot.var?_of_bind (.imp IriSlot.var?_of_bind Slot.var?_of_bind)

end TriplePattern

end SparqlAlgebra

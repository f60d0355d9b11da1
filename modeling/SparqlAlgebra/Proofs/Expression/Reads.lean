import SparqlAlgebra.Expression.Evaluate
import SparqlAlgebra.Proofs.Solution.Merge

/-!
# Variables that an expression reads

The value of a compiled expression for a row depends only on the bindings of the variables that occur in it. So merging
a row with another one changes nothing if all of these variables are bound before, as far as they are bound at all.
-/

namespace SparqlAlgebra

open Solution

namespace Compiled

mutual

/-- The variables that occur in an expression. -/
def reads : Compiled → List Variable
  | .constant _ | .answer _ | .draw .. => []
  | .var v | .isBound v => [v]
  | .or a b | .and a b | .equal a b | .sameTerm a b | .compare _ a b | .arithmetic _ a b => a.reads ++ b.reads
  | .not a | .sign _ a => a.reads
  | .choose a b c => a.reads ++ (b.reads ++ c.reads)
  | .member a es => a.reads ++ readsOfAll es
  | .coalesce es | .call _ es | .custom _ es => readsOfAll es

/-- The variables that occur in some expressions. -/
def readsOfAll : List Compiled → List Variable
  | [] => []
  | e :: es => e.reads ++ readsOfAll es

end

variable {s t : Solution} {as : List Bool} {n : Nat}

mutual

/-- Solutions with the same bindings of these variables give the same value. -/
theorem term?_congr : (e : Compiled) → (∀ v ∈ e.reads, s.get? v = t.get? v) → e.term? ⟨s, as, n⟩ = e.term? ⟨t, as, n⟩
  | .constant _, _ | .answer _, _ | .draw _ _, _ => by simp only [term?]
  | .var v, h => by
    simp only [term?]
    exact h v (by simp [reads])
  | .isBound v, h => by
    simp only [term?, binds, h v (by simp [reads])]
  | .or a b, h | .and a b, h | .equal a b, h | .sameTerm a b, h | .compare _ a b, h | .arithmetic _ a b, h => by
    rw [reads, List.forall_mem_append] at h
    simp only [term?, term?_congr a h.1, term?_congr b h.2]
  | .not a, h | .sign _ a, h => by
    rw [reads] at h
    simp only [term?, term?_congr a h]
  | .member a es, h => by
    rw [reads, List.forall_mem_append] at h
    simp only [term?, term?_congr a h.1, terms?_congr es h.2]
  | .choose a b c, h => by
    rw [reads, List.forall_mem_append, List.forall_mem_append] at h
    simp only [term?, term?_congr a h.1, term?_congr b h.2.1, term?_congr c h.2.2]
  | .coalesce es, h | .call _ es, h | .custom _ es, h => by
    rw [reads] at h
    simp only [term?, terms?_congr es h]

/-- Several expressions have the same values for rows that agree on what they read. -/
theorem terms?_congr : (es : List Compiled) → (∀ v ∈ readsOfAll es, s.get? v = t.get? v) →
    terms? ⟨s, as, n⟩ es = terms? ⟨t, as, n⟩ es
  | [], _ => by simp only [terms?]
  | e :: es, h => by
    rw [readsOfAll, List.forall_mem_append] at h
    simp only [terms?, term?_congr e h.1, terms?_congr es h.2]

end

/-- Solutions with the same bindings of the variables that are read give the same truth value. -/
theorem truth?_congr (e : Compiled) (h : ∀ v ∈ e.reads, s.get? v = t.get? v) :
    e.truth? ⟨s, as, n⟩ = e.truth? ⟨t, as, n⟩ := by
  rw [truth?, truth?, e.term?_congr h]

end Compiled

namespace Expression.Ready

variable {r : Ready} {m : Solution} {group : List Solution}

/-- Whether an expression without tests is true for a solution. -/
def accepts (r : Ready) (s : Solution) : Bool := r.root.truth? ⟨s, [], 0⟩ == some true

/-- Merging a row with the solutions of a group does not change for which of them an expression is true. -/
def Overlooks (r : Ready) (m : Solution) (group : List Solution) : Prop :=
  ∀ s ∈ group, ∀ t, m.merge? s = some t → r.accepts t = r.accepts s

/-- This is so if the solutions bind all variables of the expression that the row binds. -/
theorem overlooks_of_binds (h : ∀ v ∈ r.root.reads, m.binds v = true → ∀ s ∈ group, s.binds v = true) :
    r.Overlooks m group := by
  intro s hs t ht
  obtain ⟨hm, hext, hv⟩ := merge?_eq_some_iff_extends.1 ht
  rw [accepts, accepts, r.root.truth?_congr fun v hread => ?_]
  cases hsv : s.get? v with
  | some x => exact hext v x hsv
  | none =>
    -- Neither part of the merge binds the variable.
    have hn : s.binds v = false := by rw [binds, hsv]; rfl
    have hmv : ¬ m.binds v = true := fun hb => by simp [h v hread hb s hs] at hn
    cases htv : t.get? v with
    | none => rfl
    | some x =>
      have hb := hv v (binds_iff.2 ⟨x, htv⟩)
      rw [hn] at hb
      exact absurd (hb.resolve_right nofun) hmv

end Expression.Ready

end SparqlAlgebra

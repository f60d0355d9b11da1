import Mathlib.Data.Multiset.Bind
import Mathlib.Data.Multiset.Filter
import SparqlAlgebra.Proofs.Solution.Merge

/-!
# Joining bags of solutions

The join of two bags has a merge for each pair of compatible members, so multiplicities are multiplied. It is
commutative and associative, the bag of the empty solution is neutral, and joins distribute over sums.

Two bags that partial functions make of the same values are equal if and only if the functions agree on each value,
provided that one of them is defined wherever the other one is, with the same result. This decides whether a selection
may be made before a merge or after it.
-/

namespace SparqlAlgebra

/-! ## Joins -/

namespace Solution

variable {A B C : Multiset Solution} {s a b c : Solution}

/-- Only the members of a bag matter. -/
theorem filterMap_congr {α β : Type} {A : Multiset α} {f g : α → Option β} (h : ∀ a ∈ A, f a = g a) :
    A.filterMap f = A.filterMap g := by
  induction A using Quotient.inductionOn with
  | h as => exact congrArg _ (List.filterMap_congr h)

/-- All merges of a member of the first bag with a compatible member of the second. -/
def join (A B : Multiset Solution) : Multiset Solution := A.bind fun a => B.filterMap a.merge?

/-- A solution of a join is merged from one of each side. -/
theorem mem_join : c ∈ join A B ↔ ∃ a ∈ A, ∃ b ∈ B, a.merge? b = some c := by
  simp only [join, Multiset.mem_bind, Multiset.mem_filterMap]

/-- Nothing is joined with nothing. -/
@[simp] theorem zero_join (B : Multiset Solution) : join 0 B = 0 := rfl

/-- On either side. -/
@[simp] theorem join_zero (A : Multiset Solution) : join A 0 = 0 := by
  simp [join]

/-- A single solution is merged with each of the others. -/
@[simp] theorem singleton_join (s : Solution) (B : Multiset Solution) :
    join {s} B = B.filterMap s.merge? := by
  rw [join, Multiset.singleton_bind]

/-- A bag is joined by merging each of its solutions with all others. -/
theorem cons_join (s : Solution) (A B : Multiset Solution) :
    join (s ::ₘ A) B = B.filterMap s.merge? + join A B := by
  rw [join, Multiset.cons_bind, join]

/-- Joining distributes over the sum of bags. -/
theorem add_join (A B C : Multiset Solution) : join (A + B) C = join A C + join B C := by
  rw [join, Multiset.add_bind, join, join]

/-- The bag of the empty solution is neutral. -/
@[simp] theorem empty_join (B : Multiset Solution) : join {empty} B = B := by
  have he : (empty.merge? : Solution → Option Solution) = some := funext empty_merge?
  rw [singleton_join, he, Multiset.filterMap_some]

/-- Which bag comes first does not matter. -/
theorem join_comm (A B : Multiset Solution) : join A B = join B A := by
  unfold join
  simp only [Multiset.filterMap_eq_bind]
  rw [Multiset.bind_bind]
  simp only [merge?_comm]

/-- The empty solution is neutral on the right. -/
@[simp] theorem join_empty (A : Multiset Solution) : join A {empty} = A := by
  rw [join_comm, empty_join]

/-- Merging one solution into the first part of a join merges it into the whole. -/
theorem filterMap_join (s : Solution) (B C : Multiset Solution) :
    join (B.filterMap s.merge?) C = (join B C).filterMap s.merge? := by
  unfold join
  rw [Multiset.bind_filterMap, Multiset.filterMap_bind]
  refine Multiset.bind_congr fun b _ => ?_
  rw [Multiset.filterMap_filterMap]
  have hb : ∀ c : Solution, ((b.merge? c).bind s.merge?) = (s.merge? b).bind fun sb => sb.merge? c :=
    fun c => (merge?_assoc s b c).symm
  simp only [hb]
  cases s.merge? b with
  | none => simp [Multiset.filterMap_eq_bind]
  | some sb => rfl

/-- The grouping of joins does not matter. -/
theorem join_assoc (A B C : Multiset Solution) : join (join A B) C = join A (join B C) := by
  induction A using Multiset.induction with
  | empty => simp
  | cons s A ih => rw [cons_join, cons_join, add_join, ih, filterMap_join]

/-- Two bags can be joined in either order. -/
theorem join_right_comm (A B C : Multiset Solution) : join (join A B) C = join (join A C) B := by
  rw [join_assoc, join_comm B, ← join_assoc]

/-- All members of a bag bind the same variables. -/
def SameDomain (A : Multiset Solution) : Prop := ∀ a ∈ A, ∀ b ∈ A, ∀ v, a.binds v = true → b.binds v = true

/-- Joining bags without repetitions, each of solutions that bind the same variables, repeats nothing. -/
theorem nodup_join (hA : A.Nodup) (hB : B.Nodup) (dA : SameDomain A) (dB : SameDomain B) :
    (join A B).Nodup := by
  have part : ∀ {D : Multiset Solution}, SameDomain D → ∀ {x y c : Solution}, x ∈ D → y ∈ D →
      Extends c x → Extends c y → x = y := by
    intro D hD x y c hx hy hcx hcy
    refine Extends.eq (fun v t hv => ?_) (hD x hx y hy)
    obtain ⟨u, hu⟩ := binds_iff.1 (hD y hy x hx v (binds_iff.2 ⟨t, hv⟩))
    have he := hcx v u hu
    rw [hcy v t hv] at he
    rw [hu, he]
  rw [join, Multiset.nodup_bind]
  constructor
  · intro a _
    induction B using Quotient.inductionOn with
    | h bs =>
      refine Multiset.coe_nodup.2 (List.pairwise_filterMap.2 ((Multiset.coe_nodup.1 hB).imp_of_mem ?_))
      rintro x y hx hy hne c hcx d hdy rfl
      have hxc := (extends_of_merge? hcx).2
      have hyc := (extends_of_merge? hdy).2
      exact hne (part dB (Multiset.mem_coe.2 hx) (Multiset.mem_coe.2 hy) hxc hyc)
  · refine Multiset.Nodup.pairwise (fun x hx y hy hne => ?_) hA
    refine Multiset.disjoint_left.2 fun {c} hcx hcy => hne ?_
    obtain ⟨b, -, hb⟩ := (Multiset.mem_filterMap _ _).1 hcx
    obtain ⟨d, -, hd⟩ := (Multiset.mem_filterMap _ _).1 hcy
    exact part dA hx hy (extends_of_merge? hb).1 (extends_of_merge? hd).1

/-- The join of all bags of a list. -/
def joinAll (Bs : List (Multiset Solution)) : Multiset Solution := Bs.foldr join {empty}

/-- Without bags there is the empty solution. -/
@[simp] theorem joinAll_nil : joinAll [] = {empty} := rfl

/-- The first bag is joined with the others. -/
@[simp] theorem joinAll_cons (B : Multiset Solution) (Bs : List (Multiset Solution)) :
    joinAll (B :: Bs) = join B (joinAll Bs) := rfl

/-- The order of the bags does not matter. -/
theorem joinAll_perm {Bs Cs : List (Multiset Solution)} (h : Bs.Perm Cs) : joinAll Bs = joinAll Cs := by
  induction h with
  | nil => rfl
  | cons B _ ih => rw [joinAll_cons, joinAll_cons, ih]
  | swap B C Bs =>
    rw [joinAll_cons, joinAll_cons, joinAll_cons, joinAll_cons, ← join_assoc, join_comm C, join_assoc]
  | trans _ _ ih₁ ih₂ => rw [ih₁, ih₂]

end Solution

/-! ## Bags compared part by part -/

namespace Solution

variable {α β : Type} {A : Multiset α} {f g : α → Option β}

/-- What a function has for the values, another one that extends it has as well. -/
theorem filterMap_le_filterMap (h : ∀ a ∈ A, ∀ b, f a = some b → g a = some b) : A.filterMap f ≤ A.filterMap g := by
  induction A using Multiset.induction with
  | empty => exact le_rfl
  | cons a A ih =>
    have hrest := ih fun x hx => h x (Multiset.mem_cons_of_mem hx)
    cases hf : f a with
    | none =>
      rw [Multiset.filterMap_cons_none _ _ hf]
      exact hrest.trans (Multiset.filterMap_le_filterMap g (Multiset.le_cons_self A a))
    | some b =>
      have hg := h a (Multiset.mem_cons_self a A) b hf
      rw [Multiset.filterMap_cons_some f a A hf, Multiset.filterMap_cons_some g a A hg]
      exact Multiset.cons_le_cons b hrest

/-- Nothing is added if and only if the other function has nothing more for any of the values. -/
theorem filterMap_eq_filterMap_iff (h : ∀ a ∈ A, ∀ b, f a = some b → g a = some b) :
    A.filterMap f = A.filterMap g ↔ ∀ a ∈ A, f a = g a := by
  induction A using Multiset.induction with
  | empty => simp
  | cons a A ih =>
    have hA : ∀ x ∈ A, ∀ b, f x = some b → g x = some b := fun x hx => h x (Multiset.mem_cons_of_mem hx)
    rw [Multiset.forall_mem_cons, ← ih hA]
    cases hf : f a with
    | some b =>
      have hg := h a (Multiset.mem_cons_self a A) b hf
      rw [Multiset.filterMap_cons_some f a A hf, Multiset.filterMap_cons_some g a A hg, Multiset.cons_inj_right, hg]
      simp
    | none =>
      rw [Multiset.filterMap_cons_none _ _ hf]
      cases hg : g a with
      | none =>
        rw [Multiset.filterMap_cons_none _ _ hg]
        simp
      | some b =>
        -- The other function has one value more than this one can have.
        rw [Multiset.filterMap_cons_some g a A hg]
        refine iff_of_false (fun heq => ?_) (fun heq => by simp at heq)
        have hle := Multiset.card_le_card (filterMap_le_filterMap hA)
        rw [heq, Multiset.card_cons] at hle
        omega

/-- The results of a partial function that are a given one. -/
theorem filter_eq_filterMap [DecidableEq β] (f : α → Option β) (b : β) (A : Multiset α) :
    (A.filterMap f).filter (· = b) = A.filterMap fun a => if f a = some b then some b else none := by
  rw [Multiset.filter_filterMap]
  congr 1
  funext a
  cases hf : f a with
  | none => simp
  | some c => by_cases hc : c = b <;> simp [Option.filter, hc]

/-- Selecting the results of a partial function is selecting its arguments if and only if both selections agree on
each argument that has a result. -/
theorem filter_filterMap_eq_iff [DecidableEq β] {p : β → Prop} {q : α → Prop} [DecidablePred p] [DecidablePred q] :
    (A.filterMap f).filter p = (A.filter q).filterMap f ↔ ∀ a ∈ A, ∀ b, f a = some b → (p b ↔ q a) := by
  rw [Multiset.filter_filterMap, Multiset.filterMap_filter]
  constructor
  · intro heq a ha b hb
    -- Of the arguments with this result one side takes all or none, and the other one those that are selected.
    have hpart := congrArg (Multiset.filter (· = b)) heq
    rw [filter_eq_filterMap, filter_eq_filterMap] at hpart
    have hleft : ∀ x, ((f x).filter fun y => p y) = some b ↔ f x = some b ∧ p b := fun x => by
      simp [Option.filter_eq_some_iff]
    have hright : ∀ x, (if q x then f x else none) = some b ↔ f x = some b ∧ q x := fun x => by
      by_cases hx : q x <;> simp [hx]
    simp only [hleft, hright] at hpart
    by_cases hp : p b
    · have hall := (filterMap_eq_filterMap_iff fun x _ c hc => ?_).1 hpart.symm a ha
      · simpa [hb, hp] using hall
      · by_cases hx : f x = some b <;> simp_all
    · have hall := (filterMap_eq_filterMap_iff fun x _ c hc => ?_).1 hpart a ha
      · simpa [hb, hp] using hall
      · simp [hp] at hc
  · intro h
    refine filterMap_congr fun a ha => ?_
    cases hf : f a with
    | none => simp
    | some b => by_cases hq : q a <;> simp [Option.filter, h a ha b hf, hq]

/-- An optional member adds nothing if and only if there is none. -/
theorem add_toList_eq_iff {x : Option α} : A + (x.toList : Multiset α) = A ↔ x = none := by
  rw [add_eq_left, Multiset.coe_eq_zero, Option.toList_eq_nil_iff]

end Solution

end SparqlAlgebra

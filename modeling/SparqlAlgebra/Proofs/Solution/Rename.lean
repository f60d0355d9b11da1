import SparqlAlgebra.Proofs.Solution.Bag

/-!
# Renaming the variables of solutions

A renaming that keeps variables apart changes only the names: it commutes with merging and with joins, and the
bindings are found again under the new names.
-/

namespace SparqlAlgebra

namespace Solution

variable {f : Variable → Variable} {s a b : Solution} {v w : Variable} {t : Term}
  {es : List (Variable × Term)}

/-- In a list that binds no variable to two terms, each binding is decisive. -/
theorem get?_ofList_eq_some_iff (hes : ∀ v t u, (v, t) ∈ es → (v, u) ∈ es → t = u) :
    (ofList es).get? v = some t ↔ (v, t) ∈ es := by
  have hmem : ∀ u, es.reverse.lookup v = some u → (v, u) ∈ es := by
    intro u hu
    obtain ⟨l₁, l₂, he, -⟩ := List.lookup_eq_some_iff.1 hu
    have hm : (v, u) ∈ es.reverse := by
      rw [he]
      simp
    simpa using hm
  rw [ofList, get?_foldl_insert, get?_empty, Option.or_none]
  constructor
  · exact hmem t
  · intro hm
    cases hl : es.reverse.lookup v with
    | some u => rw [hes v t u hm (hmem u hl)]
    | none =>
      have hn := List.lookup_eq_none_iff.1 hl (v, t) (List.mem_reverse.2 hm)
      simp at hn

/-- Gives every variable a new name. -/
def rename (f : Variable → Variable) (s : Solution) : Solution :=
  ofList (s.entries.map fun e => (f e.1, e.2))

/-- The bindings are found under the new names. -/
theorem get?_rename_eq_some_iff (hf : Function.Injective f) :
    (s.rename f).get? w = some t ↔ ∃ v, f v = w ∧ s.get? v = some t := by
  have hm : ∀ w t, (w, t) ∈ s.entries.map (fun e => (f e.1, e.2)) ↔ ∃ v, f v = w ∧ s.get? v = some t := by
    intro w t
    rw [List.mem_map]
    constructor
    · rintro ⟨⟨v, u⟩, hv, he⟩
      obtain ⟨rfl, rfl⟩ := Prod.mk.inj he
      exact ⟨v, rfl, get?_eq_some_iff.2 hv⟩
    · rintro ⟨v, rfl, hv⟩
      exact ⟨(v, t), get?_eq_some_iff.1 hv, rfl⟩
  rw [rename, get?_ofList_eq_some_iff, hm]
  intro w t u ht hu
  obtain ⟨x, rfl, hx⟩ := (hm _ _).1 ht
  obtain ⟨y, hxy, hy⟩ := (hm _ _).1 hu
  rw [hf hxy, hx] at hy
  exact Option.some.inj hy

/-- A renamed variable has the term of the variable. -/
theorem get?_rename (hf : Function.Injective f) (s : Solution) (v : Variable) :
    (s.rename f).get? (f v) = s.get? v := by
  apply Option.ext
  intro t
  rw [get?_rename_eq_some_iff hf]
  constructor
  · rintro ⟨w, hw, h⟩
    rwa [← hf hw]
  · exact fun h => ⟨v, rfl, h⟩

/-- New names that can be taken back are taken back. -/
theorem rename_rename {g : Variable → Variable} (h : Function.LeftInverse g f) (s : Solution) :
    (s.rename f).rename g = s := by
  have hm : ∀ v t, (v, t) ∈ (s.rename f).entries.map (fun e => (g e.1, e.2)) ↔ s.get? v = some t := by
    intro v t
    rw [List.mem_map]
    constructor
    · rintro ⟨⟨w, u⟩, he, heq⟩
      obtain ⟨x, rfl, hx⟩ := (get?_rename_eq_some_iff h.injective).1 (get?_eq_some_iff.2 he)
      obtain ⟨rfl, rfl⟩ := Prod.mk.inj heq
      rwa [h x]
    · intro hv
      exact ⟨(f v, t), get?_eq_some_iff.1 ((get?_rename h.injective s v).trans hv), by rw [h v]⟩
  refine ext_get? fun v => Option.ext fun t => ?_
  rw [rename, get?_ofList_eq_some_iff, hm]
  intro v t u ht hu
  rw [hm] at ht hu
  rw [ht] at hu
  exact Option.some.inj hu

/-- No other name is bound. -/
theorem get?_rename_of_ne (hf : Function.Injective f) (s : Solution) (h : ∀ v, f v ≠ w) :
    (s.rename f).get? w = none := by
  cases hw : (s.rename f).get? w with
  | none => rfl
  | some t =>
    obtain ⟨v, hv, -⟩ := (get?_rename_eq_some_iff hf).1 hw
    exact absurd hv (h v)

/-- Two solutions that only bind new names are equal if they bind the same under these. -/
theorem ext_range {c d : Solution} (h : ∀ v, c.get? (f v) = d.get? (f v))
    (hc : ∀ w, (∀ v, f v ≠ w) → c.get? w = none) (hd : ∀ w, (∀ v, f v ≠ w) → d.get? w = none) : c = d := by
  refine ext_get? fun w => ?_
  by_cases hw : ∃ v, f v = w
  · obtain ⟨v, rfl⟩ := hw
    exact h v
  · have hn : ∀ v, f v ≠ w := fun v hv => hw ⟨v, hv⟩
    rw [hc w hn, hd w hn]

/-- There is nothing to rename in the empty solution. -/
@[simp] theorem rename_empty (f : Variable → Variable) : empty.rename f = empty := rfl

/-- Renaming can be done before a binding is added or after that. -/
theorem rename_insert (hf : Function.Injective f) (s : Solution) (v : Variable) (t : Term) :
    (s.insert v t).rename f = (s.rename f).insert (f v) t := by
  refine ext_range (f := f) (fun w => ?_) (fun w hw => get?_rename_of_ne hf _ hw) fun w hw => ?_
  · rw [get?_rename hf, get?_insert, get?_insert, get?_rename hf]
    simp only [hf.eq_iff]
  · rw [get?_insert, if_neg (hw v).symm, get?_rename_of_ne hf _ hw]

/-- Renaming can be done before a union or after it. -/
theorem rename_union (hf : Function.Injective f) (a b : Solution) :
    (a.union b).rename f = (a.rename f).union (b.rename f) := by
  refine ext_range (f := f) (fun w => ?_) (fun w hw => get?_rename_of_ne hf _ hw) fun w hw => ?_
  · rw [get?_rename hf, get?_union, get?_union, get?_rename hf, get?_rename hf]
  · rw [get?_union, get?_rename_of_ne hf _ hw, get?_rename_of_ne hf _ hw]
    rfl

/-- Renamed solutions agree if they did before. -/
theorem agree_rename (hf : Function.Injective f) : Agree (a.rename f) (b.rename f) ↔ Agree a b := by
  constructor
  · intro h v t u ha hb
    exact h (f v) t u (by rw [get?_rename hf, ha]) (by rw [get?_rename hf, hb])
  · intro h w t u ha hb
    obtain ⟨v, rfl, hv⟩ := (get?_rename_eq_some_iff hf).1 ha
    rw [get?_rename hf] at hb
    exact h v t u hv hb

/-- Renaming commutes with merging. -/
theorem rename_merge? (hf : Function.Injective f) (a b : Solution) :
    (a.rename f).merge? (b.rename f) = (a.merge? b).map (rename f) := by
  have hc : (a.rename f).isCompatible (b.rename f) = a.isCompatible b := by
    rw [Bool.eq_iff_iff, isCompatible_iff, isCompatible_iff, agree_rename hf]
  unfold merge?
  rw [hc]
  split
  · rw [Option.map_some, rename_union hf]
  · rfl

/-- Renaming commutes with joins. -/
theorem join_map_rename (hf : Function.Injective f) (A B : Multiset Solution) :
    join (A.map (rename f)) (B.map (rename f)) = (join A B).map (rename f) := by
  rw [join, join, Multiset.bind_map, Multiset.map_bind]
  refine Multiset.bind_congr fun a _ => ?_
  rw [Multiset.filterMap_map, Multiset.map_filterMap]
  congr 1
  exact funext fun b => rename_merge? hf a b

/-- Only the empty solution is renamed to the empty one. -/
theorem rename_eq_empty (hf : Function.Injective f) (h : s.rename f = empty) : s = empty := by
  refine ext_get? fun v => ?_
  rw [← get?_rename hf, h, get?_empty, get?_empty]

end Solution

end SparqlAlgebra

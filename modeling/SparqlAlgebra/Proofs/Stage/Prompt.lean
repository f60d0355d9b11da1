import Mathlib.Logic.Relation
import SparqlAlgebra.Proofs.Stage.Collect
import SparqlAlgebra.Proofs.Stage.RowWise

/-!
# Stages that have had their effects before their first item

A stage that gathers its input, or that is computed from the state at once, changes nothing any more when its items
come. Nothing can be told of it but what it collects to. So two such stages are similar as soon as they collect to the
same, and filtering the items of all the stages that are made of some values is filtering the items of each of them.
-/

namespace SparqlAlgebra

namespace Stage

variable {σ ε α β γ : Type} {R R' : σ → σ → Prop} {s t u : σ} {a b c : Stage σ ε α}

/-! ## Composition -/

/-- It does not matter which of two stages with the same items comes first. -/
theorem SimilarAt.symm_eq (h : SimilarAt Eq a s b t) : SimilarAt Eq b t a s := by
  induction h with
  | done h => exact .done h.symm
  | item h _ ih => exact .item h.symm fun s t hst => ih t s hst.symm
  | readLeft _ ih => exact .readRight ih
  | readRight _ ih => exact .readLeft ih
  | writeLeft _ ih => exact .writeRight ih
  | writeRight _ ih => exact .writeLeft ih

/-- What cannot be told apart from a stage in the middle cannot be told apart. -/
theorem SimilarAt.trans (h : SimilarAt R a s b u) (k : SimilarAt R' b u c t) :
    SimilarAt (Relation.Comp R R') a s c t := by
  -- The stage in the middle takes each of its steps in both runs at once.
  induction h generalizing c t with
  | @done s u h =>
    generalize hb : (.done : Stage σ ε α) = b at k
    induction k with
    | done k => exact .done ⟨_, h, k⟩
    | readRight _ ih => exact .readRight (ih h hb)
    | writeRight _ ih => exact .writeRight (ih h hb)
    | item | readLeft | writeLeft => cases hb
  | @item x a' b' s u h hr ih =>
    generalize hb : Stage.item x b' = b at k
    induction k with
    | item k kr =>
      cases hb
      refine .item ⟨_, h, k⟩ ?_
      rintro s t ⟨u, hsu, hut⟩
      exact ih s u hsu (kr u t hut)
    | readRight _ ihk => exact .readRight (ihk h hb)
    | writeRight _ ihk => exact .writeRight (ihk h hb)
    | done | readLeft | writeLeft => cases hb
  | readLeft _ ih => exact .readLeft (ih k)
  | writeLeft _ ih => exact .writeLeft (ih k)
  | @readRight a' next s u hnext ih =>
    generalize hb : Stage.read next = b at k
    induction k with
    | readLeft k =>
      cases hb
      exact ih k
    | readRight _ ihk => exact .readRight (ihk hnext ih hb)
    | writeRight _ ihk => exact .writeRight (ihk hnext ih hb)
    | done | item | writeLeft => cases hb
  | @writeRight a' b' s u v _ ih =>
    generalize hb : Stage.write v b' = b at k
    induction k with
    | writeLeft k =>
      cases hb
      exact ih k
    | readRight _ ihk => exact .readRight (ihk hb)
    | writeRight _ ihk => exact .writeRight (ihk hb)
    | done | item | readLeft => cases hb

/-- Stages with the same items may be put in place of each other. -/
theorem Similar.trans_eq (h : Similar Eq a b) (k : Similar R b c) : Similar R a c := by
  intro s t hR
  have hcomp := (h s s rfl).trans (k s t hR)
  rwa [Relation.eq_comp] at hcomp

/-- It does not matter which of two stages with the same items in all states comes first. -/
theorem Similar.symm_eq (h : Similar Eq a b) : Similar Eq b a := fun s t hst => (h t s hst.symm).symm_eq

/-! ## All effects first -/

/-- Run in any state, the stage leads to the state in which collecting it ends, and has the same items as what it
collects to from there on. -/
def Prompt (a : Stage σ ε α) : Prop := ∀ s, SimilarAt Eq a s (ofExcept (a.collect s).1) (a.collect s).2

/-- Stages that do everything first are similar if they collect to the same. -/
theorem Prompt.similar (ha : Prompt a) (hb : Prompt b)
    (h : ∀ s t, R s t → (a.collect s).1 = (b.collect t).1 ∧ R (a.collect s).2 (b.collect t).2) : Similar R a b := by
  intro s t hR
  obtain ⟨hvalue, hstate⟩ := h s t hR
  have hleft := ha s
  have hmiddle : SimilarAt R (ofExcept (b.collect t).1) _ (ofExcept (b.collect t).1 : Stage σ ε α) _ :=
    Similar.ofExcept _ _ _ hstate
  have hright := (hb t).symm_eq
  rw [hvalue] at hleft
  have hall := (hleft.trans hmiddle).trans hright
  rwa [Relation.comp_eq, Relation.eq_comp] at hall

/-- Stages that do everything before their first item have the same items if they collect the same. -/
theorem Prompt.similar_eq (ha : Prompt a) (hb : Prompt b) (h : ∀ s, a.collect s = b.collect s) : Similar Eq a b := by
  refine ha.similar hb ?_
  rintro s _ rfl
  rw [h]
  exact ⟨rfl, rfl⟩

/-- A list has nothing to do before its first item. -/
theorem prompt_ofList (xs : List α) : Prompt (ofList xs : Stage σ ε α) := by
  intro s
  rw [collect_ofList]
  exact Similar.refl _ s s rfl

/-- A result that is computed from the state. -/
theorem prompt_act (f : σ → Except ε (List α) × σ) :
    Prompt (.act fun s => (ofExcept (f s).1, (f s).2) : Stage σ ε α) := by
  intro s
  have hcollect : (.act fun s => (ofExcept (f s).1, (f s).2) : Stage σ ε α).collect s = f s :=
    collect_ofExcept (f s).1 (f s).2
  rw [hcollect]
  exact .readLeft (.writeLeft (Similar.ofExcept _ _ _ rfl))

/-- A result that is read off the state. -/
theorem prompt_read (f : σ → Except ε (List α)) : Prompt (.read fun s => ofExcept (f s) : Stage σ ε α) := by
  intro s
  have hcollect : (.read fun s => ofExcept (f s) : Stage σ ε α).collect s = (f s, s) := collect_ofExcept (f s) s
  rw [hcollect]
  exact .readLeft (Similar.ofExcept _ _ _ rfl)

namespace Streaming

/-- Leaving values out can be done on both sides of an end. -/
theorem filterMap_append (f : α → Option β) (a b : Stage σ ε α) :
    filterMap f (a.append b) = (filterMap f a).append (filterMap f b) := by
  induction a with
  | done => rfl
  | item x rest ih =>
    cases x with
    | error e => exact congrArg (Stage.item (.error e)) ih
    | ok x =>
      rw [append, filterMap, filterMap]
      cases f x with
      | none => exact ih
      | some y => exact congrArg (Stage.item (.ok y)) ih
  | read next ih => exact congrArg Stage.read (funext ih)
  | write t rest ih => exact congrArg (Stage.write t) ih

/-- Filtering all items is filtering those that are made of each value. -/
theorem filterMap_mergeMap (k : β → Option γ) (f : α → Stage σ ε β) (a : Stage σ ε α) :
    filterMap k (mergeMap f a) = mergeMap (fun x => filterMap k (f x)) a := by
  induction a with
  | done => rfl
  | item x rest ih =>
    cases x with
    | error e => exact congrArg (Stage.item (.error e)) ih
    | ok x =>
      rw [mergeMap, mergeMap, filterMap_append, ih]
  | read next ih => exact congrArg Stage.read (funext ih)
  | write t rest ih => exact congrArg (Stage.write t) ih

/-- Mapping before values are left out is left out with what they are mapped to. -/
theorem filterMap_map (k : β → Option γ) (f : α → β) (a : Stage σ ε α) :
    filterMap k (map f a) = filterMap (fun x => k (f x)) a := by
  induction a with
  | done => rfl
  | item x rest ih =>
    cases x with
    | error e => exact congrArg (Stage.item (.error e)) ih
    | ok x =>
      rw [map, filterMap, filterMap, ih]
  | read next ih => exact congrArg Stage.read (funext ih)
  | write t rest ih => exact congrArg (Stage.write t) ih

/-- Leaving values out of a stream leaves them out of what it collects. -/
theorem collect_filterMap (f : α → Option β) (a : Stage σ ε α) (s : σ) :
    (filterMap f a).collect s = ((a.collect s).1.map (List.filterMap f), (a.collect s).2) := by
  induction a generalizing s with
  | done => rfl
  | item x rest ih =>
    cases x with
    | error e => rfl
    | ok x =>
      rw [filterMap, collect_ok]
      cases hx : f x with
      | none =>
        dsimp only
        rw [ih]
        cases (rest.collect s).1 with
        | error e => rfl
        | ok xs => simp [Except.map, hx]
      | some y =>
        dsimp only
        rw [collect_ok, ih]
        cases (rest.collect s).1 with
        | error e => rfl
        | ok xs => simp [Except.map, hx]
  | read next ih => exact ih s s
  | write t rest ih => exact ih t

/-- Leaving values out of a result leaves them out of its items. -/
theorem similar_filterMap_ofExcept (f : α → Option β) (r : Except ε (List α)) :
    Similar Eq (filterMap f (ofExcept r) : Stage σ ε β) (ofExcept (r.map (List.filterMap f))) := by
  cases r with
  | error e => exact .refl _
  | ok xs =>
    change Similar Eq (filterMap f (ofList xs)) (ofList (xs.filterMap f))
    induction xs with
    | nil => exact .refl _
    | cons x xs ih =>
      rw [ofList, filterMap, List.filterMap_cons]
      cases f x with
      | none => exact fun s t hst => .readLeft (ih s t hst)
      | some y => exact .item _ (.read ih)

/-- If everything is done before the first item, it still is when values are left out. -/
theorem prompt_filterMap (f : α → Option β) (h : Prompt a) : Prompt (filterMap f a) := by
  intro s
  rw [collect_filterMap]
  have hfilter := similarAt_filterMap f (h s)
  have hvalues := similar_filterMap_ofExcept (σ := σ) f (a.collect s).1 _ (a.collect s).2 rfl
  have hcomp := hfilter.trans hvalues
  rwa [Relation.eq_comp] at hcomp

/-- Gathering does everything before its first item. -/
theorem prompt_gather (a : Stage σ ε α) : Prompt (gather a) := by
  have hreduce : ∀ (held : List α) (s : σ), SimilarAt Eq (map List.reverse (reduce (fun acc x => x :: acc) held a)) s
      (ofExcept ((a.collect s).1.map fun xs => [held.reverse ++ xs])) (a.collect s).2 := by
    intro held s
    induction a generalizing held s with
    | done =>
      change SimilarAt Eq (.item (.ok held.reverse) .done) s (ofList [held.reverse ++ []]) s
      rw [List.append_nil]
      refine .item rfl ?_
      rintro s _ rfl
      exact .readRight (.done rfl)
    | item x rest ih =>
      cases x with
      | error e => exact Similar.fail e s s rfl
      | ok x =>
        have hvalue : (rest.collect s).1.map (fun xs => [(x :: held).reverse ++ xs]) =
            ((rest.collect s).1.map (x :: ·)).map fun xs => [held.reverse ++ xs] := by
          cases (rest.collect s).1 <;> simp [Except.map]
        have hrest := ih (x :: held) s
        rw [hvalue] at hrest
        rw [collect_ok]
        exact hrest
    | read next ih => exact .readLeft (ih s held s)
    | write t rest ih => exact .writeLeft (ih held t)
  intro s
  rw [collect_gather]
  exact hreduce [] s

end Streaming

namespace Vectorized

/-- What works on the whole list does everything before its first item. -/
theorem prompt_materialize (f : List α → σ → Except ε (List β) × σ) (a : Stage σ ε α) : Prompt (materialize f a) := by
  intro s
  rw [materialize, collect_read]
  refine .readLeft ?_
  rcases a.collect s with ⟨e | xs, t⟩
  · exact .writeLeft (Similar.fail e _ _ rfl)
  · dsimp only
    rw [collect_write, collect_ofExcept]
    exact .writeLeft (Similar.ofExcept _ _ _ rfl)

/-- What a function makes of the whole list is made before the first item. -/
theorem prompt_onList (f : List α → List β) (a : Stage σ ε α) : Prompt (onList f a) := prompt_materialize _ a

/-- Merging on whole lists does everything before its first item. -/
theorem prompt_mergeMap (f : α → Stage σ ε β) (a : Stage σ ε α) : Prompt (mergeMap f a) := prompt_materialize _ a

/-- Values may be left out of each collected list or of all of them together. -/
theorem collectEach_filterMap (k : β → Option γ) (f : α → Stage σ ε β) (xs : List α) (s : σ) :
    collectEach (fun x => onList (List.filterMap k) (f x)) xs s =
      ((collectEach f xs s).1.map (List.filterMap k), (collectEach f xs s).2) := by
  induction xs generalizing s with
  | nil => rfl
  | cons x xs ih =>
    rw [collectEach_cons, collectEach_cons, collect_onList]
    rcases (f x).collect s with ⟨e | ys, t⟩
    · rfl
    · dsimp only [Except.map]
      rw [ih]
      cases (collectEach f xs t).1 <;> simp [Except.map]

/-- Merging on whole lists collects the stage first and then a stage for each value. -/
theorem collect_mergeMap (f : α → Stage σ ε β) (a : Stage σ ε α) (s : σ) :
    (mergeMap f a).collect s =
      match a.collect s with
      | (.ok xs, t) => collectEach f xs t
      | (.error e, t) => (.error e, t) := by
  rw [mergeMap, materialize, collect_read]
  rcases a.collect s with ⟨e | xs, t⟩
  · rfl
  · exact collect_ofExcept _ _

end Vectorized

end Stage

namespace Engine

open Stage

variable {σ ε α β γ : Type} {a : Stage σ ε α} (g : Engine)

/-- On either engine, leaving values out of a stage leaves them out of what it collects. -/
theorem collect_filterMap (f : α → Option β) (a : Stage σ ε α) (s : σ) :
    (g.filterMap f a).collect s = ((a.collect s).1.map (List.filterMap f), (a.collect s).2) := by
  cases g with
  | streaming => exact Streaming.collect_filterMap f a s
  | vectorized => exact Vectorized.collect_onList _ a s

/-- If everything is done before the first item, it still is. -/
theorem prompt_filterMap (f : α → Option β) (h : Prompt a) : Prompt (g.filterMap f a) := by
  cases g with
  | streaming => exact Streaming.prompt_filterMap f h
  | vectorized => exact Vectorized.prompt_onList _ a

/-- Gathering does everything before its first item. -/
theorem prompt_gather (a : Stage σ ε α) : Prompt (g.gather a) := by
  cases g with
  | streaming => exact Streaming.prompt_gather a
  | vectorized => exact Vectorized.prompt_onList _ a

/-- Mapping and leaving values out can be done in one step. -/
theorem similar_filterMap_map (k : β → Option γ) (f : α → β) (a : Stage σ ε α) :
    Similar Eq (g.filterMap k (g.map f a)) (g.filterMap (fun x => k (f x)) a) := by
  cases g with
  | streaming =>
    rw [filterMap, map, Streaming.filterMap_map]
    exact .refl _
  | vectorized =>
    refine Prompt.similar_eq (Vectorized.prompt_onList _ _) (Vectorized.prompt_onList _ _) fun s => ?_
    rw [collect_filterMap, collect_map, collect_filterMap]
    cases (a.collect s).1 with
    | error e => rfl
    | ok xs => simp [Except.map]

/-- The items that are made of all the values may be filtered for each value. -/
theorem similar_filterMap_mergeMap (k : β → Option γ) (f : α → Stage σ ε β) (a : Stage σ ε α) :
    Similar Eq (g.filterMap k (g.mergeMap f a)) (g.mergeMap (fun x => g.filterMap k (f x)) a) := by
  cases g with
  | streaming =>
    rw [filterMap, mergeMap, Streaming.filterMap_mergeMap]
    exact .refl _
  | vectorized =>
    refine Prompt.similar_eq (Vectorized.prompt_onList _ _) (Vectorized.prompt_mergeMap _ _) fun s => ?_
    rw [collect_filterMap, mergeMap, mergeMap, Vectorized.collect_mergeMap, Vectorized.collect_mergeMap]
    rcases a.collect s with ⟨e | xs, t⟩
    · rfl
    · exact (Vectorized.collectEach_filterMap k f xs t).symm

/-- Mapping is merging single values. -/
theorem similar_map_mergeMap (f : α → β) (a : Stage σ ε α) :
    Similar Eq (g.map f a) (g.mergeMap (fun x => .ofList [f x]) a) := by
  cases g with
  | streaming =>
    intro s t hst
    induction a generalizing s t with
    | done => exact .done hst
    | item x rest ih =>
      cases x with
      | error e => exact .item hst ih
      | ok x => exact .item hst fun s t hst => .readRight (ih s t hst)
    | read next ih =>
      subst hst
      exact .readLeft (.readRight (ih s s s rfl))
    | write u rest ih => exact .writeLeft (.writeRight (ih u u rfl))
  | vectorized =>
    refine Prompt.similar_eq (Vectorized.prompt_onList _ _) (Vectorized.prompt_mergeMap _ _) fun s => ?_
    rw [collect_map, collect_mergeMap_list]
    cases (a.collect s).1 with
    | error e => rfl
    | ok xs => simp [Except.map, List.map_eq_flatMap]

end Engine

end SparqlAlgebra

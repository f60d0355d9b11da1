import SparqlAlgebra.Proofs.Stage.Similar
import SparqlAlgebra.Proofs.Stage.Within

/-!
# Operators that treat every row on its own

Between two items a stage may change the state step by step. If nothing that it delivers depends on the state in which
it is resumed, then it cannot be told apart from a stage that does all of this at once, and that stage stays within the
bag of its values. A stage amounts to a bag if it cannot be told apart from one that stays within it. An operator
works row by row if it turns whatever amounts to a bag into what amounts to the union of the bags that it has for each
of the rows.
-/

namespace SparqlAlgebra

namespace Stage

variable {σ ε α β γ : Type} {P : σ → Prop} {s t : σ} {a b : Stage σ ε α} {V : Multiset α}

/-- A stage has the same items as itself. -/
theorem Similar.refl (a : Stage σ ε α) : Similar Eq a a := by
  rintro s _ rfl
  induction a generalizing s with
  | done => exact .done rfl
  | item x rest ih =>
    refine .item rfl ?_
    rintro s _ rfl
    exact ih s
  | read next ih => exact .readLeft (.readRight (ih s s))
  | write t rest ih => exact .writeLeft (.writeRight (ih t))

/-! ## All changes at once -/

/-- The stage with a state of its own, in which it goes on up to the next item before it shows what it has done. -/
def condenseAt : Stage σ ε α → σ → Stage σ ε α
  | .done, s => .write s .done
  | .item x rest, s => .write s (.item x (.read fun t => condenseAt rest t))
  | .read next, s => condenseAt (next s) s
  | .write t rest, _ => condenseAt rest t

/-- The stage with all changes between two items made at once. -/
def condense (a : Stage σ ε α) : Stage σ ε α := .read a.condenseAt

/-- Whatever the others see in the meantime, the items are the same. -/
theorem similarAt_condenseAt (a : Stage σ ε α) (s t : σ) : SimilarAt Eq a s (a.condenseAt s) t := by
  induction a generalizing s t with
  | done => exact .writeRight (.done rfl)
  | item x rest ih =>
    refine .writeRight (.item rfl ?_)
    rintro s _ rfl
    exact .readRight (ih s s)
  | read next ih => exact .readLeft (ih s s t)
  | write u rest ih => exact .writeLeft (ih u t)

/-- A condensed stage has the same items. -/
theorem similar_condense (a : Stage σ ε α) : Similar Eq a a.condense := by
  rintro s _ rfl
  exact .readRight (similarAt_condenseAt a s s)

/-- The values among the items of a run. -/
def values (a : Stage σ ε α) (s : σ) : Multiset α := ((a.run s).1.filterMap Except.toOption : List α)

/-- An empty stage has no values. -/
@[simp] theorem values_done (s : σ) : (done : Stage σ ε α).values s = 0 := rfl

/-- An item that is a value adds it. -/
@[simp] theorem values_ok (x : α) (rest : Stage σ ε α) (s : σ) :
    (item (.ok x) rest).values s = x ::ₘ rest.values s := by
  simp [values, Except.toOption]

/-- A failure adds no value. -/
@[simp] theorem values_error (e : ε) (rest : Stage σ ε α) (s : σ) :
    (item (.error e) rest).values s = rest.values s := by
  rw [values, run_item, List.filterMap_cons_none rfl, values]

/-- Both states have the property. -/
def Both (P : σ → Prop) (s t : σ) : Prop := P s ∧ P t

/-- Stages that deliver the same values in all states with a property cannot be told apart there. -/
theorem Yields.similarAt {xs : List α} (ha : Yields P a xs) (hb : Yields P b xs) (hs : P s) (ht : P t) :
    SimilarAt (Both P) a s b t := by
  induction ha generalizing b s t with
  | done =>
    generalize hxs : ([] : List α) = xs at hb
    induction hb generalizing t with
    | done => exact .done ⟨hs, ht⟩
    | item => cases hxs
    | read _ ih => exact .readRight (ih t ht ht hxs)
    | write hu _ ih => exact .writeRight (ih hu hxs)
  | @item x rest xs _ ih =>
    generalize hxs : x :: xs = ys at hb
    induction hb generalizing t with
    | done => cases hxs
    | item hb =>
      cases hxs
      exact .item ⟨hs, ht⟩ fun s t hst => ih hb hst.1 hst.2
    | read _ ih => exact .readRight (ih t ht ht hxs)
    | write hu _ ih => exact .writeRight (ih hu hxs)
  | read _ ih => exact .readLeft (ih s hs hb hs ht)
  | write hu _ ih => exact .writeLeft (ih hb hu ht)

/-- A stage that always delivers one list has the same items in all states within the invariant. -/
theorem Yields.selfSimilar {xs : List α} (h : Yields P a xs) : SelfSimilar (Both P) a :=
  fun _ _ hst => h.similarAt h hst.1 hst.2

/-- A stage with the same items as another one in every state with a property shows only such states, once all its
changes are made at once, and delivers what the other one delivers. -/
theorem SimilarAt.within_condenseAt (h : SimilarAt (Both P) a s b t) :
    Within P True (a.condenseAt s) (b.values t) := by
  induction h with
  | done h => exact .write h.1 .done
  | @item x a b s t h _ ih =>
    have hrest : Within P True (.read a.condenseAt) (b.values t) := .read fun u hu => ih u t ⟨hu, h.2⟩
    cases x with
    | ok x =>
      rw [values_ok]
      exact .write h.1 (.item hrest)
    | error e =>
      rw [values_error]
      exact .write h.1 (.fail trivial hrest le_rfl)
  | readLeft _ ih => exact ih
  | readRight _ ih => exact ih
  | writeLeft _ ih => exact ih
  | writeRight _ ih => exact ih

/-! ## What stages amount to -/

/-- The stage cannot be told apart from one that stays within the bag. -/
def AmountsTo (P : σ → Prop) (a : Stage σ ε α) (V : Multiset α) : Prop := ∃ b, Similar Eq a b ∧ Within P True b V

/-- A stage that stays within a bag, or fails, amounts to the bag. -/
theorem Within.amountsTo (h : Within P True a V) : AmountsTo P a V := ⟨a, .refl a, h⟩

/-- A list amounts to its values. -/
theorem AmountsTo.ofList (xs : List α) : AmountsTo P (ofList xs : Stage σ ε α) xs := (Within.ofList xs).amountsTo

/-- Stages that have the same items as one and the same stage all amount to one bag. -/
theorem exists_amountsTo (P : σ → Prop) (b : Stage σ ε α) :
    ∃ V, ∀ a, Similar (Both P) a b → AmountsTo P a V := by
  by_cases h : ∃ t, P t
  · obtain ⟨t, ht⟩ := h
    exact ⟨b.values t, fun a hab =>
      ⟨a.condense, similar_condense a, .read fun s hs => (hab s t ⟨hs, ht⟩).within_condenseAt⟩⟩
  · exact ⟨0, fun a _ => ⟨a.condense, similar_condense a, .read fun s hs => absurd ⟨s, hs⟩ h⟩⟩

/-- Collecting such a stage gives the values of the bag, in some order. -/
theorem AmountsTo.runs (h : AmountsTo P a V) : Runs P True (Holds V) a := by
  obtain ⟨b, hab, hb⟩ := h
  intro s hs
  have hcollect : a.collect s = b.collect s := Prod.ext (hab.collect rfl).1 (hab.collect rfl).2
  rw [hcollect]
  exact hb.runs s hs

/-- What an operator makes of stages within a bag, it makes of those that amount to it. -/
theorem AmountsTo.lift {f : Stage σ ε α → Stage σ ε β} {W : Multiset β}
    (hsimilar : ∀ a b, Similar Eq a b → Similar Eq (f a) (f b))
    (hwithin : ∀ a, Within P True a V → Within P True (f a) W) (h : AmountsTo P a V) : AmountsTo P (f a) W := by
  obtain ⟨b, hab, hb⟩ := h
  exact ⟨f b, hsimilar a b hab, hwithin b hb⟩

/-- The operator has a bag for each row, and it makes of what amounts to some rows what amounts to the union of their
bags. -/
def RowWise (P : σ → Prop) (f : Stage σ ε α → Stage σ ε β) : Prop :=
  ∃ F : α → Multiset β, ∀ a V, AmountsTo P a V → AmountsTo P (f a) (V.bind F)

/-- Leaving a stage as it is works row by row. -/
theorem RowWise.id : RowWise P (fun a : Stage σ ε α => a) := by
  refine ⟨fun x => {x}, fun a V h => ?_⟩
  rwa [Multiset.bind_singleton, Multiset.map_id']

/-- Two operators that work row by row do so one after the other. -/
theorem RowWise.comp {f : Stage σ ε α → Stage σ ε β} {k : Stage σ ε β → Stage σ ε γ} (hf : RowWise P f)
    (hk : RowWise P k) : RowWise P (fun a => k (f a)) := by
  obtain ⟨F, hf⟩ := hf
  obtain ⟨K, hk⟩ := hk
  refine ⟨fun x => (F x).bind K, fun a V h => ?_⟩
  rw [← Multiset.bind_assoc]
  exact hk _ _ (hf a V h)

end Stage

namespace Engine

open Stage

variable {σ ε α β : Type} {P : σ → Prop} {a : Stage σ ε α} {V : Multiset α} (g : Engine)

/-- Mapping amounts to what is mapped. -/
theorem amountsTo_map (f : α → β) (h : AmountsTo P a V) : AmountsTo P (g.map f a) (V.map f) :=
  h.lift (fun _ _ hab => g.similar_map f hab) fun _ ha => g.within_map f ha

/-- A filter amounts to what passes. -/
theorem amountsTo_filter (q : α → Bool) (h : AmountsTo P a V) :
    AmountsTo P (g.filter q a) (V.filter fun x => q x = true) :=
  h.lift (fun _ _ hab => g.similar_filter q hab) fun _ ha => g.within_filter q ha

/-- Merging amounts to what the merged stages amount to. -/
theorem amountsTo_mergeMap {f : α → Stage σ ε β} {F : α → Multiset β} (hf : ∀ x, AmountsTo P (f x) (F x))
    (h : AmountsTo P a V) : AmountsTo P (g.mergeMap f a) (V.bind F) := by
  choose k hk hF using hf
  obtain ⟨b, hab, hb⟩ := h
  exact ⟨g.mergeMap k b, g.similar_mergeMap hk hab, g.within_mergeMap (fun x _ => hF x) hb⟩

/-- What is done with the list of all values amounts to the same bag for every order. -/
theorem amountsTo_mergeMap_gather {f : List α → Stage σ ε β} {W : Multiset β}
    (hf : ∀ xs, Holds V xs → AmountsTo P (f xs) W) (h : AmountsTo P a V) :
    AmountsTo P (g.mergeMap f (g.gather a)) W := by
  have hk : ∀ xs, ∃ k, Similar Eq (f xs) k ∧ (Holds V xs → Within P True k W) := by
    intro xs
    by_cases hxs : Holds V xs
    · obtain ⟨k, hsimilar, hwithin⟩ := hf xs hxs
      exact ⟨k, hsimilar, fun _ => hwithin⟩
    · exact ⟨f xs, .refl _, fun hV => absurd hV hxs⟩
  choose k hsimilar hwithin using hk
  obtain ⟨b, hab, hb⟩ := h
  exact ⟨g.mergeMap k (g.gather b), g.similar_mergeMap hsimilar (g.similar_gather hab),
    g.within_mergeMap_gather hwithin hb⟩

/-- Mapping works row by row. -/
theorem rowWise_map (f : α → β) : RowWise P (g.map f : Stage σ ε α → Stage σ ε β) := by
  refine ⟨fun x => {f x}, fun a V h => ?_⟩
  rw [Multiset.bind_singleton]
  exact g.amountsTo_map f h

/-- Leaving values out works row by row. -/
theorem rowWise_filterMap (f : α → Option β) : RowWise P (g.filterMap f : Stage σ ε α → Stage σ ε β) := by
  refine ⟨fun x => ((f x).map singleton).getD 0, fun a V h => ?_⟩
  rw [← Multiset.filterMap_eq_bind]
  exact h.lift (fun _ _ hab => g.similar_filterMap f hab) fun _ ha => g.within_filterMap f ha

/-- What is made of each row may depend on the state, as long as this does not show. -/
theorem rowWise_mergeMap {f : α → Stage σ ε β} (hf : ∀ x, SelfSimilar (Both P) (f x)) :
    RowWise P (g.mergeMap f) := by
  choose F hF using fun x => exists_amountsTo P (f x)
  exact ⟨F, fun a V h => g.amountsTo_mergeMap (fun x => hF x (f x) (hf x)) h⟩

end Engine

end SparqlAlgebra

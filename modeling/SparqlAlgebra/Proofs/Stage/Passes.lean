import SparqlAlgebra.Proofs.Stage.Only
import SparqlAlgebra.Proofs.Stage.Within

/-!
# Runs from one state

A stage may deliver other values from every state. A single run of it, from one state to another, is all that matters
to operators whose own stages leave the state as they find it: whatever an item-by-item engine does in between, the run
of their input goes on as if nothing had happened.
-/

namespace SparqlAlgebra

namespace Stage

variable {σ ε α β γ : Type} {P : σ → Prop} {Q : α → Prop}

/-- The run from one state delivers the values of the bag, ends in another state and keeps the invariant on the way. -/
inductive Passes (P : σ → Prop) : Stage σ ε α → σ → Multiset α → σ → Prop
  | done {s : σ} : P s → Passes P .done s 0 s
  | item {x : α} {rest : Stage σ ε α} {s t : σ} {V : Multiset α} :
      Passes P rest s V t → Passes P (.item (.ok x) rest) s (x ::ₘ V) t
  | read {next : σ → Stage σ ε α} {s t : σ} {V : Multiset α} :
      Passes P (next s) s V t → Passes P (.read next) s V t
  | write {u s t : σ} {rest : Stage σ ε α} {V : Multiset α} :
      Passes P rest u V t → P s → Passes P (.write u rest) s V t

namespace Passes

variable {stage : Stage σ ε α} {s t u : σ} {V W : Multiset α}

/-- A stage passes only from states within the invariant. -/
theorem start (h : Passes P stage s V t) : P s := by
  induction h with
  | done hs => exact hs
  | item _ ih => exact ih
  | read _ ih => exact ih
  | write _ hs _ => exact hs

/-- Collecting the stage from the first state gives the values in some order and the last state. -/
theorem collect (h : Passes P stage s V t) : ∃ xs, stage.collect s = (.ok xs, t) ∧ Holds V xs ∧ P t := by
  induction h with
  | done hs => exact ⟨[], rfl, rfl, hs⟩
  | @item x _ _ _ _ _ ih =>
    obtain ⟨xs, hc, hxs, ht⟩ := ih
    refine ⟨x :: xs, ?_, congrArg (x ::ₘ ·) hxs, ht⟩
    rw [collect_ok, hc]
    rfl
  | read _ ih => exact ih
  | write _ _ ih => exact ih

/-- Where a stage keeps an invariant, a run that is collected passes. -/
theorem of_collect (honly : Only P Q stage) (hs : P s) {xs : List α} (h : stage.collect s = (.ok xs, t)) :
    Passes P stage s xs t := by
  induction honly generalizing s xs with
  | done =>
    obtain ⟨hxs, rfl⟩ := Prod.mk.inj h
    rw [← Except.ok.inj hxs]
    exact .done hs
  | @value x rest _ _ ih =>
    rw [collect_ok] at h
    rcases hc : rest.collect s with ⟨e | ys, u⟩
    · rw [hc] at h
      cases h
    · rw [hc] at h
      obtain ⟨hxs, rfl⟩ := Prod.mk.inj h
      rw [← Except.ok.inj hxs]
      exact .item (ih hs hc)
  | failure _ _ => cases h
  | read _ ih => exact .read (ih s hs hs h)
  | write hu _ ih => exact .write (ih hu h) hs

/-- A stage that stays within a bag whenever it is run from this state passes from it and leaves it alone. -/
theorem of_within (h : Within (· = u) False stage V) (hu : P u) : Passes P stage u V u := by
  induction h with
  | done => exact .done hu
  | item _ ih => exact .item ih
  | fail hm _ _ _ => exact hm.elim
  | read _ ih => exact .read (ih u rfl)
  | write hs _ ih =>
    obtain rfl := hs
    exact .write ih hu

/-- What is passed by two stages one after the other is passed by both. -/
theorem append {b : Stage σ ε α} (h : Passes P stage s V t) (hb : Passes P b t W u) :
    Passes P (stage.append b) s (V + W) u := by
  induction h with
  | done _ =>
    rw [zero_add]
    exact hb
  | item _ ih =>
    rw [Multiset.cons_add]
    exact .item (ih hb)
  | read _ ih => exact .read (ih hb)
  | write _ hs ih => exact .write (ih hb) hs

/-- A result that has been reached already is passed in the state that it led to. -/
theorem ofExcept {r : Except ε (List α)} (h : Ends P False (Holds V) (r, t)) (hs : P s) :
    Passes P (.write t (ofExcept r)) s V t := by
  cases r with
  | error e => exact h.2.elim
  | ok xs =>
    obtain ⟨ht, rfl⟩ := h
    exact .write (.of_within (.ofList xs) ht) hs

end Passes

/-- The stage that a function makes of each value of a bag leaves every state within the invariant alone and delivers
the values of another bag. -/
abbrev ReadsOnly (P : σ → Prop) (f : α → Stage σ ε β) (x : α) (V : Multiset β) : Prop :=
  ∀ u, P u → Within (· = u) False (f x) V

variable {stage : Stage σ ε α} {s t : σ} {V : Multiset α}

/-! ## Operators that work item by item -/

namespace Streaming

/-- Merging streams that only read passes what each of them has. -/
theorem passes_mergeMap {f : α → Stage σ ε β} {F : α → Multiset β} (hf : ∀ x ∈ V, ReadsOnly P f x (F x))
    (h : Passes P stage s V t) : Passes P (mergeMap f stage) s (V.bind F) t := by
  induction h with
  | done hs => exact .done hs
  | @item x _ s _ V hrest ih =>
    rw [mergeMap, Multiset.cons_bind]
    have hx : Passes P (f x) s (F x) s := .of_within (hf x (Multiset.mem_cons_self x V) s hrest.start) hrest.start
    exact hx.append (ih fun y hy => hf y (Multiset.mem_cons_of_mem hy))
  | read _ ih => exact .read (ih hf)
  | write _ hs ih => exact .write (ih hf) hs

/-- Keeping distinct values passes what has not been seen, each value once. -/
theorem passes_distinct [DecidableEq α] [Keyed γ] {key : α → γ} (hkey : ∀ x y, key x = key y → x = y)
    (seen : KeySet γ) (h : Passes P stage s V t) : Passes P (distinct key seen stage) s (fresh key seen V) t := by
  induction h generalizing seen with
  | done hs => exact .done hs
  | @item x _ _ _ _ _ ih =>
    rw [distinct]
    cases hx : seen.contains (key x) with
    | true =>
      rw [fresh_cons_of_seen hx]
      exact ih seen
    | false =>
      rw [fresh_cons_of_new hkey hx]
      exact .item (ih _)
  | read _ ih => exact .read (ih seen)
  | write _ hs ih => exact .write (ih seen) hs

/-- Runs of a buffer, each handed to a function that delivers a bag for each of their values. -/
theorem passes_mergeMap_buffer {f : List α → Stage σ ε β} {F : α → Multiset β} {size : Nat}
    (hf : ∀ run : List α, run.length ≤ size → ReadsOnly P f run ((run : Multiset α).bind F))
    (count : Nat) (held : List α) (hc : held.length = count) (hsize : count < size) (h : Passes P stage s V t) :
    Passes P (mergeMap f (buffer size count held stage)) s (((held : Multiset α) + V).bind F) t := by
  have hrun : ∀ {run : List α} {u : σ}, run.length ≤ size → P u →
      Passes P (f run.reverse) u ((run : Multiset α).bind F) u := by
    intro run u hlen hu
    rw [← Multiset.coe_reverse]
    exact .of_within (hf run.reverse (by rwa [List.length_reverse]) u hu) hu
  induction h generalizing count held with
  | done hs =>
    rw [buffer]
    split
    · rename_i hnone
      rw [List.isEmpty_iff.1 hnone]
      exact .done hs
    · rw [Multiset.add_bind]
      exact (hrun (by omega) hs).append (.done hs)
  | @item x _ _ _ V hrest ih =>
    have hmove : (held : Multiset α) + x ::ₘ V = ((x :: held : List α) : Multiset α) + V := by
      rw [Multiset.add_cons, ← Multiset.cons_coe, Multiset.cons_add]
    rw [buffer, hmove]
    split
    · have hlater := ih 0 [] rfl (by omega)
      rw [Multiset.coe_nil, zero_add] at hlater
      rw [mergeMap, Multiset.add_bind]
      exact (hrun (by rw [List.length_cons]; omega) hrest.start).append hlater
    · exact ih (count + 1) (x :: held) (by rw [List.length_cons, hc]) (by omega)
  | read _ ih => exact .read (ih count held hc hsize)
  | write _ hs ih => exact .write (ih count held hc hsize) hs

end Streaming

/-! ## Operators that work on whole lists -/

namespace Vectorized

/-- What is made of a whole list is passed if it only reads. -/
theorem passes_materialize {f : List α → σ → Except ε (List β) × σ} {W : Multiset β}
    (hf : ∀ xs, Holds V xs → P t → Ends P False (Holds W) (f xs t) ∧ (f xs t).2 = t) (h : Passes P stage s V t) :
    Passes P (materialize f stage) s W t := by
  obtain ⟨xs, hc, hxs, ht⟩ := h.collect
  obtain ⟨hends, hsame⟩ := hf xs hxs ht
  refine .read ?_
  rw [hc]
  dsimp only
  rcases hr : f xs t with ⟨r, u⟩
  rw [hr] at hends hsame
  obtain rfl : u = t := hsame
  exact .ofExcept hends h.start

/-- A function of the whole list passes what it takes to within the bag. -/
theorem passes_onList {f : List α → List β} {W : Multiset β} (hf : ∀ xs, Holds V xs → Holds W (f xs))
    (h : Passes P stage s V t) : Passes P (onList f stage) s W t :=
  passes_materialize (fun xs hxs ht => ⟨⟨ht, hf xs hxs⟩, rfl⟩) h

/-- Collecting stages one after another leaves a state alone that each of them leaves alone. -/
theorem collectEach_readsOnly {f : α → Stage σ ε β} {F : α → Multiset β} {xs : List α}
    (hf : ∀ x ∈ xs, ReadsOnly P f x (F x)) (ht : P t) :
    Ends P False (Holds ((xs : Multiset α).bind F)) (collectEach f xs t) ∧ (collectEach f xs t).2 = t := by
  have hends := collectEach_within (fun x hx => hf x hx t ht) rfl
  rcases hr : collectEach f xs t with ⟨e | ys, u⟩
  · rw [hr] at hends
    exact hends.2.elim
  · rw [hr] at hends
    obtain ⟨rfl, hys⟩ := hends
    exact ⟨⟨ht, hys⟩, rfl⟩

/-- On whole lists, merging stages that only read passes what each of them has. -/
theorem passes_mergeMap {f : α → Stage σ ε β} {F : α → Multiset β} (hf : ∀ x ∈ V, ReadsOnly P f x (F x))
    (h : Passes P stage s V t) : Passes P (mergeMap f stage) s (V.bind F) t := by
  refine passes_materialize (fun xs hxs ht => ?_) h
  subst hxs
  exact collectEach_readsOnly (fun x hx => hf x hx) ht

end Vectorized

/-! ## Either engine -/

end Stage

namespace Engine

open Stage

variable {σ ε α β γ : Type} {P : σ → Prop} {stage : Stage σ ε α} {s t : σ} {V : Multiset α}

/-- On either engine it does. -/
theorem passes_mergeMap (g : Engine) {f : α → Stage σ ε β} {F : α → Multiset β}
    (hf : ∀ x ∈ V, ReadsOnly P f x (F x)) (h : Passes P stage s V t) : Passes P (g.mergeMap f stage) s (V.bind F) t := by
  cases g with
  | streaming => exact Streaming.passes_mergeMap hf h
  | vectorized => exact Vectorized.passes_mergeMap hf h

/-- Where keys tell values apart each value is kept once. -/
theorem passes_distinct (g : Engine) [DecidableEq α] [Keyed γ] {key : α → γ} (hkey : ∀ x y, key x = key y → x = y)
    (h : Passes P stage s V t) : Passes P (g.distinct key stage) s V.dedup t := by
  rw [← fresh_empty key]
  cases g with
  | streaming => exact Streaming.passes_distinct hkey .empty h
  | vectorized =>
    refine Vectorized.passes_onList (fun xs hxs => ?_) h
    subst hxs
    exact holds_firstsFrom hkey .empty xs

/-- Runs of a buffer, each handed to a function that delivers a bag for each of their values. -/
theorem passes_mergeMap_buffer (g : Engine) {f : List α → Stage σ ε β} {F : α → Multiset β} (size : Nat)
    (hf : ∀ run : List α, run.length ≤ max size 1 → ReadsOnly P f run ((run : Multiset α).bind F))
    (h : Passes P stage s V t) : Passes P (g.mergeMap f (g.buffer size stage)) s (V.bind F) t := by
  have hp : 0 < max size 1 := by omega
  cases g with
  | streaming =>
    have hb := Streaming.passes_mergeMap_buffer hf 0 [] rfl hp h
    rwa [Multiset.coe_nil, zero_add] at hb
  | vectorized =>
    obtain ⟨xs, hc, hxs, ht⟩ := h.collect
    have hflat : (Vectorized.chunks (max size 1) xs).flatten = xs := Vectorized.flatten_chunksOnto hp [] xs le_rfl
    have hlen : ∀ run ∈ Vectorized.chunks (max size 1) xs, run.length ≤ max size 1 := fun run hr =>
      Vectorized.length_le_of_mem_chunksOnto (by simp) hr
    have hruns : Passes P (Engine.vectorized.buffer size stage) s (Vectorized.chunks (max size 1) xs : Multiset (List α))
        t := by
      refine .read ?_
      rw [hc]
      exact .write (.of_within (.ofList _) ht) h.start
    have hall := Vectorized.passes_mergeMap (fun run hr => hf run (hlen run hr)) hruns
    rw [bind_flatten, hflat, hxs] at hall
    exact hall

end Engine

end SparqlAlgebra

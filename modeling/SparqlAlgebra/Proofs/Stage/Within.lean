import Mathlib.Data.Multiset.Bind
import Mathlib.Data.Multiset.Dedup
import Mathlib.Data.Multiset.Filter
import SparqlAlgebra.Proofs.Stage.Yields

/-!
# Stages that deliver the values of a bag

A stage stays within a bag if every run that starts where an invariant of the state holds keeps the invariant and
delivers the values of the bag, in an order that may depend on the state. Where failures are allowed, a run with a
failure delivers some of these values. This is kept by all operators, of either engine; those that look at a whole
list give the same bag for every order.
-/

namespace SparqlAlgebra

namespace Stage

variable {σ ε α β γ : Type} {P : σ → Prop} {mayFail : Prop}

/-- Every run within the invariant delivers the values of the bag, or some of them if something fails. -/
inductive Within (P : σ → Prop) (mayFail : Prop) : Stage σ ε α → Multiset α → Prop
  | done : Within P mayFail .done 0
  | item {x : α} {rest : Stage σ ε α} {V : Multiset α} :
      Within P mayFail rest V → Within P mayFail (.item (.ok x) rest) (x ::ₘ V)
  | fail {e : ε} {rest : Stage σ ε α} {V W : Multiset α} :
      mayFail → Within P mayFail rest W → W ≤ V → Within P mayFail (.item (.error e) rest) V
  | read {next : σ → Stage σ ε α} {V : Multiset α} :
      (∀ s, P s → Within P mayFail (next s) V) → Within P mayFail (.read next) V
  | write {s : σ} {rest : Stage σ ε α} {V : Multiset α} :
      P s → Within P mayFail rest V → Within P mayFail (.write s rest) V

/-- A list holds the values of a bag. -/
def Holds (V : Multiset α) (xs : List α) : Prop := (xs : Multiset α) = V

/-- A list is empty exactly if a bag is. -/
def Tells (V : Multiset α) (xs : List α) : Prop := xs.isEmpty = true ↔ V = 0

/-- The empty list tells of the empty bag. -/
theorem tells_zero : Tells (0 : Multiset α) [] := by
  simp [Tells]

/-- A single value tells of a bag with it. -/
theorem tells_cons (x : α) (V : Multiset α) : Tells (x ::ₘ V) [x] := by
  simp [Tells]

/-- What tells of a bag is empty if the bag is. -/
theorem Tells.isEmpty_eq {V : Multiset α} {xs : List α} [Decidable (V = 0)] (h : Tells V xs) :
    xs.isEmpty = decide (V = 0) := by
  rw [Bool.eq_iff_iff, decide_eq_true_iff]
  exact h

/-- A run ends with a result that has a property, or with a failure if that is allowed, and keeps the invariant. -/
def Ends (P : σ → Prop) (mayFail : Prop) (Q : α → Prop) : Except ε α × σ → Prop
  | (.ok x, s) => P s ∧ Q x
  | (.error _, s) => P s ∧ mayFail

/-- Every run of a stage ends with a list that has a property. -/
def Runs (P : σ → Prop) (mayFail : Prop) (Q : List α → Prop) (stage : Stage σ ε α) : Prop :=
  ∀ s, P s → Ends P mayFail Q (stage.collect s)

/-- A list of one value, which has a property. -/
def One (Q : α → Prop) (xs : List α) : Prop := ∃ x, xs = [x] ∧ Q x

/-- Every run within the invariant delivers exactly one value, which has a property, or one failure if that is
allowed. -/
inductive Once (P : σ → Prop) (mayFail : Prop) (Q : α → Prop) : Stage σ ε α → Prop
  | item {x : α} {rest : Stage σ ε α} : Q x → Yields P rest [] → Once P mayFail Q (.item (.ok x) rest)
  | fail {e : ε} : mayFail → Once P mayFail Q (.item (.error e) .done)
  | read {next : σ → Stage σ ε α} : (∀ s, P s → Once P mayFail Q (next s)) → Once P mayFail Q (.read next)
  | write {s : σ} {rest : Stage σ ε α} : P s → Once P mayFail Q rest → Once P mayFail Q (.write s rest)

/-- A stage that delivers the values of a list stays within its bag. -/
theorem Yields.within {stage : Stage σ ε α} {xs : List α} (h : Yields P stage xs) : Within P mayFail stage xs := by
  induction h with
  | done => exact .done
  | item _ ih => exact .item ih
  | read _ ih => exact .read ih
  | write hs _ ih => exact .write hs ih

/-- A list stays within its values. -/
theorem Within.ofList (xs : List α) : Within P mayFail (Stage.ofList xs : Stage σ ε α) xs :=
  (Yields.ofList xs).within

/-- A failure stays within every bag. -/
theorem Within.failed (e : ε) (V : Multiset α) (h : mayFail) : Within P mayFail (Stage.fail e : Stage σ ε α) V :=
  .fail h .done (Multiset.zero_le V)

/-- Collecting such a stage gives the values of the bag, in some order. -/
theorem Within.runs {stage : Stage σ ε α} {V : Multiset α} (h : Within P mayFail stage V) :
    Runs P mayFail (Holds V) stage := by
  intro s hs
  induction h generalizing s with
  | done => exact ⟨hs, rfl⟩
  | @item x rest V _ ih =>
    have hrest := ih s hs
    rw [collect_ok]
    rcases hc : rest.collect s with ⟨_ | xs, t⟩
    · rw [hc] at hrest
      exact hrest
    · rw [hc] at hrest
      exact ⟨hrest.1, congrArg (x ::ₘ ·) hrest.2⟩
  | fail hm _ _ _ => exact ⟨hs, hm⟩
  | read _ ih =>
    rw [collect_read]
    exact ih s hs s hs
  | write ht _ ih =>
    rw [collect_write]
    exact ih _ ht

/-- Collecting a stage with one value gives the list of this value. -/
theorem Once.runs {stage : Stage σ ε α} {Q : α → Prop} (h : Once P mayFail Q stage) :
    Runs P mayFail (One Q) stage := by
  intro s hs
  induction h generalizing s with
  | item hx hr =>
    obtain ⟨t, ht, hc⟩ := hr.collect hs
    rw [collect_ok, hc]
    exact ⟨ht, _, rfl, hx⟩
  | fail hm => exact ⟨hs, hm⟩
  | read _ ih =>
    rw [collect_read]
    exact ih s hs s hs
  | write ht _ ih =>
    rw [collect_write]
    exact ih _ ht

/-- A result that may be a failure becomes a stage. -/
theorem Ends.within {r : Except ε (List α)} {s : σ} {V : Multiset α}
    (h : Ends P mayFail (Holds V) (r, s)) : Within P mayFail (.write s (ofExcept r)) V := by
  cases r with
  | error e => exact .write h.1 (.failed e V h.2)
  | ok xs =>
    obtain ⟨hs, rfl⟩ := h
    exact .write hs (.ofList xs)

/-- Stages one after the other stay within both bags together. -/
theorem Within.append {a b : Stage σ ε α} {V W : Multiset α} (ha : Within P mayFail a V)
    (hb : Within P mayFail b W) : Within P mayFail (a.append b) (V + W) := by
  induction ha with
  | done =>
    rw [zero_add]
    exact hb
  | item _ ih =>
    rw [Multiset.cons_add]
    exact .item ih
  | fail hm _ hle ih => exact .fail hm ih (add_le_add_left hle W)
  | read _ ih => exact .read ih
  | write hs _ ih => exact .write hs ih

/-- What a stage does first leads to one that stays within the bag. -/
theorem Within.act {f : σ → Stage σ ε α × σ} {V : Multiset α}
    (h : ∀ s, P s → Within P mayFail (f s).1 V ∧ P (f s).2) : Within P mayFail (Stage.act f) V :=
  .read fun s hs => .write (h s hs).2 (h s hs).1

/-- A smaller bag goes on to smaller bags. -/
theorem bind_le_bind {V W : Multiset α} (h : W ≤ V) (F : α → Multiset β) : W.bind F ≤ V.bind F := by
  obtain ⟨U, rfl⟩ := Multiset.le_iff_exists_add.1 h
  rw [Multiset.add_bind]
  exact Multiset.le_add_right _ _

/-- Going through the runs of a list goes through the list. -/
theorem bind_flatten (runs : List (List α)) (F : α → Multiset β) :
    ((runs : Multiset (List α)).bind fun run => (run : Multiset α).bind F) = (runs.flatten : Multiset α).bind F := by
  induction runs with
  | nil => rfl
  | cons run runs ih =>
    rw [List.flatten_cons, ← Multiset.coe_add, Multiset.add_bind, ← ih, ← Multiset.cons_coe, Multiset.cons_bind]

/-- The values of a bag whose keys are not in a set, each once. -/
def fresh [DecidableEq α] [Keyed γ] (key : α → γ) (seen : KeySet γ) (V : Multiset α) : Multiset α :=
  (V.filter fun x => seen.contains (key x) = false).dedup

section Fresh

variable [DecidableEq α] [Keyed γ] {key : α → γ} {seen : KeySet γ} {V W : Multiset α} {x y : α}

/-- What is fresh is in the bag and has not been seen. -/
theorem mem_fresh : y ∈ fresh key seen V ↔ y ∈ V ∧ seen.contains (key y) = false := by
  rw [fresh, Multiset.mem_dedup, Multiset.mem_filter]

/-- Each value is fresh once. -/
theorem nodup_fresh (key : α → γ) (seen : KeySet γ) (V : Multiset α) : (fresh key seen V).Nodup :=
  Multiset.nodup_dedup _

/-- If nothing has been seen, the whole bag is fresh. -/
theorem fresh_empty (key : α → γ) (V : Multiset α) : fresh key .empty V = V.dedup := by
  rw [fresh, Multiset.filter_eq_self.2 fun x _ => KeySet.contains_empty (key x)]

/-- Less is fresh in a smaller bag. -/
theorem fresh_le (h : W ≤ V) : fresh key seen W ≤ fresh key seen V := by
  refine (Multiset.le_iff_subset (nodup_fresh key seen W)).2 fun y hy => ?_
  obtain ⟨hy, hn⟩ := mem_fresh.1 hy
  exact mem_fresh.2 ⟨Multiset.mem_of_le h hy, hn⟩

/-- A value that has been seen adds nothing fresh. -/
theorem fresh_cons_of_seen (h : seen.contains (key x) = true) : fresh key seen (x ::ₘ V) = fresh key seen V := by
  rw [fresh, Multiset.filter_cons_of_neg _ (by simp [h]), fresh]

/-- A new value is kept, and its key is not new any more. -/
theorem fresh_cons_of_new (hkey : ∀ x y, key x = key y → x = y) (h : seen.contains (key x) = false) :
    fresh key seen (x ::ₘ V) = x ::ₘ fresh key (seen.insert (key x)) V := by
  have hnew : ∀ y, (seen.insert (key x)).contains (key y) = false ↔ x ≠ y ∧ seen.contains (key y) = false := by
    intro y
    rw [← Bool.not_eq_true, KeySet.contains_insert, not_or, Bool.not_eq_true]
    exact and_congr_left fun _ => not_congr ⟨hkey x y, congrArg key⟩
  have hnodup : (x ::ₘ fresh key (seen.insert (key x)) V).Nodup := by
    refine Multiset.nodup_cons.2 ⟨fun hx => ?_, nodup_fresh ..⟩
    exact ((hnew x).1 (mem_fresh.1 hx).2).1 rfl
  refine (Multiset.Nodup.ext (nodup_fresh ..) hnodup).2 fun y => ?_
  rw [mem_fresh, Multiset.mem_cons, Multiset.mem_cons, mem_fresh, hnew]
  by_cases hxy : y = x
  · simp [hxy, h]
  · simp [hxy, Ne.symm hxy]

end Fresh

/-- Keeping the first value of each key gives each value once. -/
theorem holds_firstsFrom [DecidableEq α] [Keyed γ] {key : α → γ} (hkey : ∀ x y, key x = key y → x = y)
    (seen : KeySet γ) (xs : List α) : Holds (fresh key seen xs) (KeySet.firstsFrom key seen [] xs) := by
  induction xs generalizing seen with
  | nil => rfl
  | cons x xs ih =>
    rw [KeySet.firstsFrom, ← Multiset.cons_coe]
    cases hx : seen.contains (key x) with
    | true =>
      rw [fresh_cons_of_seen hx]
      exact ih seen
    | false =>
      rw [fresh_cons_of_new hkey hx]
      have hrest := ih (seen.insert (key x))
      simp only [Bool.false_eq_true, if_false]
      rw [KeySet.firstsFrom_eq]
      exact congrArg (x ::ₘ ·) hrest

/-! ## Operators that work item by item -/

namespace Streaming

variable {stage : Stage σ ε α} {V : Multiset α}

/-- Mapping a stream stays within what is mapped. -/
theorem within_map (f : α → β) (h : Within P mayFail stage V) : Within P mayFail (map f stage) (V.map f) := by
  induction h with
  | done => exact .done
  | item _ ih =>
    rw [Multiset.map_cons]
    exact .item ih
  | fail hm _ hle ih => exact .fail hm ih (Multiset.map_le_map hle)
  | read _ ih => exact .read ih
  | write hs _ ih => exact .write hs ih

/-- Leaving values out stays within the others. -/
theorem within_filterMap (f : α → Option β) (h : Within P mayFail stage V) :
    Within P mayFail (filterMap f stage) (V.filterMap f) := by
  induction h with
  | done => exact .done
  | @item x _ _ _ ih =>
    rw [filterMap]
    cases hx : f x with
    | none =>
      rw [Multiset.filterMap_cons_none _ _ hx]
      exact ih
    | some y =>
      rw [Multiset.filterMap_cons_some _ _ _ hx]
      exact .item ih
  | fail hm _ hle ih => exact .fail hm ih (Multiset.filterMap_le_filterMap f hle)
  | read _ ih => exact .read ih
  | write hs _ ih => exact .write hs ih

/-- A function that may fail leaves the values that it has. -/
theorem within_tryMap {f : α → Except ε β} (hf : ∀ x ∈ V, ∀ e, f x = .error e → mayFail)
    (h : Within P mayFail stage V) :
    Within P mayFail (tryMap f stage) (V.filterMap fun x => (f x).toOption) := by
  induction h with
  | done => exact .done
  | @item x _ V _ ih =>
    have hrest := ih fun y hy => hf y (Multiset.mem_cons_of_mem hy)
    rw [tryMap]
    cases hx : f x with
    | error e =>
      rw [Multiset.filterMap_cons_none (f := fun x => (f x).toOption) x V (by rw [hx]; rfl)]
      exact .fail (hf x (Multiset.mem_cons_self x V) e hx) hrest le_rfl
    | ok y =>
      rw [Multiset.filterMap_cons_some (fun x => (f x).toOption) x V (by rw [hx]; rfl)]
      exact .item hrest
  | fail hm _ hle ih =>
    exact .fail hm (ih fun x hx => hf x (Multiset.mem_of_le hle hx)) (Multiset.filterMap_le_filterMap _ hle)
  | read _ ih => exact .read fun s hs => ih s hs hf
  | write hs _ ih => exact .write hs (ih hf)

/-- Merging streams that stay within bags stays within all of them together. -/
theorem within_mergeMap {f : α → Stage σ ε β} {F : α → Multiset β} (hf : ∀ x ∈ V, Within P mayFail (f x) (F x))
    (h : Within P mayFail stage V) : Within P mayFail (mergeMap f stage) (V.bind F) := by
  induction h with
  | done => exact .done
  | @item x _ V _ ih =>
    rw [mergeMap, Multiset.cons_bind]
    exact (hf x (Multiset.mem_cons_self x V)).append (ih fun y hy => hf y (Multiset.mem_cons_of_mem hy))
  | fail hm _ hle ih => exact .fail hm (ih fun x hx => hf x (Multiset.mem_of_le hle hx)) (bind_le_bind hle F)
  | read _ ih => exact .read fun s hs => ih s hs hf
  | write hs _ ih => exact .write hs (ih hf)

/-- Keeping distinct values stays within what is fresh. -/
theorem within_distinct [DecidableEq α] [Keyed γ] {key : α → γ} (hkey : ∀ x y, key x = key y → x = y)
    (seen : KeySet γ) (h : Within P mayFail stage V) :
    Within P mayFail (distinct key seen stage) (fresh key seen V) := by
  induction h generalizing seen with
  | done => exact .done
  | @item x _ _ _ ih =>
    rw [distinct]
    cases hx : seen.contains (key x) with
    | true =>
      rw [fresh_cons_of_seen hx]
      exact ih seen
    | false =>
      rw [fresh_cons_of_new hkey hx]
      exact .item (ih _)
  | fail hm _ hle ih => exact .fail hm (ih seen) (fresh_le hle)
  | read _ ih => exact .read fun s hs => ih s hs seen
  | write hs _ ih => exact .write hs (ih seen)

/-- Runs of a buffer, each handed to a function that delivers a bag for each of their values. -/
theorem within_mergeMap_buffer {f : List α → Stage σ ε β} {F : α → Multiset β} {size : Nat}
    (hf : ∀ run : List α, run.length ≤ size → Within P mayFail (f run) ((run : Multiset α).bind F))
    (count : Nat) (held : List α) (hc : held.length = count) (hs : count < size) (h : Within P mayFail stage V) :
    Within P mayFail (mergeMap f (buffer size count held stage)) (((held : Multiset α) + V).bind F) := by
  induction h generalizing count held with
  | done =>
    rw [buffer]
    split
    · rename_i hh
      rw [List.isEmpty_iff.1 hh]
      exact .done
    · have hrun : Within P mayFail (f held.reverse) ((held : Multiset α).bind F) := by
        rw [← Multiset.coe_reverse]
        exact hf held.reverse (by rw [List.length_reverse]; omega)
      rw [Multiset.add_bind]
      exact hrun.append .done
  | @item x _ V _ ih =>
    have hmove : (held : Multiset α) + x ::ₘ V = ((x :: held : List α) : Multiset α) + V := by
      rw [Multiset.add_cons, ← Multiset.cons_coe, Multiset.cons_add]
    rw [buffer, hmove]
    split
    · have hrun : Within P mayFail (f (x :: held).reverse) (((x :: held : List α) : Multiset α).bind F) := by
        rw [← Multiset.coe_reverse]
        exact hf _ (by rw [List.length_reverse, List.length_cons]; omega)
      have hrest := ih 0 [] rfl (by omega)
      rw [Multiset.coe_nil, zero_add] at hrest
      rw [mergeMap, Multiset.add_bind]
      exact hrun.append hrest
    · exact ih (count + 1) (x :: held) (by rw [List.length_cons, hc]) (by omega)
  | fail hm _ hle ih =>
    have hrest := ih 0 [] rfl (by omega)
    refine .fail hm hrest (bind_le_bind ?_ F)
    rw [Multiset.coe_nil, zero_add]
    exact hle.trans (Multiset.le_add_left _ _)
  | read _ ih => exact .read fun s hs' => ih s hs' count held hc hs
  | write hs' _ ih => exact .write hs' (ih count held hc hs)

/-- Putting all values in front of a list gives a list of the bag. -/
theorem once_reduce (acc : List α) (h : Within P mayFail stage V) :
    Once P mayFail (Holds ((acc : Multiset α) + V)) (reduce (fun acc x => x :: acc) acc stage) := by
  induction h generalizing acc with
  | done => exact .item (add_zero _).symm .done
  | @item x _ V _ ih =>
    have hmove : ((x :: acc : List α) : Multiset α) + V = acc + x ::ₘ V := by
      rw [Multiset.add_cons, ← Multiset.cons_coe, Multiset.cons_add]
    rw [reduce, ← hmove]
    exact ih (x :: acc)
  | fail hm _ _ _ => exact .fail hm
  | read _ ih => exact .read fun s hs => ih s hs acc
  | write hs _ ih => exact .write hs (ih acc)

/-- A single value is mapped to a single value. -/
theorem once_map {Q : α → Prop} {R : β → Prop} {f : α → β} (hf : ∀ x, Q x → R (f x))
    (h : Once P mayFail Q stage) : Once P mayFail R (map f stage) := by
  induction h with
  | item hx hr => exact .item (hf _ hx) (yields_map f hr)
  | fail hm => exact .fail hm
  | read _ ih => exact .read ih
  | write hs _ ih => exact .write hs ih

/-- Gathering a stream gives one list of its values. -/
theorem once_gather (h : Within P mayFail stage V) :
    Once P mayFail (Holds V) (gather stage) := by
  refine once_map (fun xs hx => ?_) (once_reduce [] h)
  rw [Holds, Multiset.coe_nil, zero_add] at hx
  rw [Holds, Multiset.coe_reverse, hx]

/-- A limit of zero leaves nothing. -/
theorem limit_zero (stage : Stage σ ε α) : limit 0 stage = .done := by
  cases stage <;> rfl

/-- The first value of a stage tells whether the bag is empty. -/
theorem once_gather_limit (h : Within P mayFail stage V) :
    Once P mayFail (Tells V) (gather (limit 1 stage)) := by
  induction h with
  | done => exact .item tells_zero .done
  | item _ _ =>
    rw [limit, limit_zero]
    exact .item (tells_cons _ _) .done
  | fail hm _ _ _ => exact .fail hm
  | read _ ih => exact .read ih
  | write hs _ ih => exact .write hs ih

/-- A limit of one tells whether there is anything. -/
theorem runs_limit (h : Within P mayFail stage V) : Runs P mayFail (Tells V) (limit 1 stage) := by
  intro s hs
  induction h generalizing s with
  | done => exact ⟨hs, tells_zero⟩
  | item _ _ =>
    rw [limit, limit_zero, collect_ok]
    exact ⟨hs, tells_cons _ _⟩
  | fail hm _ _ _ => exact ⟨hs, hm⟩
  | read _ ih => exact ih s hs s hs
  | write ht _ ih => exact ih _ ht

/-- A stage with one value goes on with what is merged for it. -/
theorem within_mergeMap_once {Q : α → Prop} {f : α → Stage σ ε β} {W : Multiset β}
    (hf : ∀ x, Q x → Within P mayFail (f x) W) (h : Once P mayFail Q stage) :
    Within P mayFail (mergeMap f stage) W := by
  induction h with
  | item hx hr =>
    have hrest : Within P mayFail (mergeMap f _) 0 := within_mergeMap (F := fun _ => 0) (by simp) hr.within
    rw [mergeMap, ← add_zero W]
    exact (hf _ hx).append hrest
  | fail hm => exact .fail hm .done (Multiset.zero_le W)
  | read _ ih => exact .read ih
  | write hs _ ih => exact .write hs ih

/-- Mapping with a function that may fail can be done on both sides of an end. -/
theorem tryMap_append (f : α → Except ε β) (a b : Stage σ ε α) :
    tryMap f (a.append b) = (tryMap f a).append (tryMap f b) := by
  induction a with
  | done => rfl
  | item x rest ih => cases x <;> exact congrArg _ ih
  | read next ih => exact congrArg Stage.read (funext ih)
  | write s rest ih => exact congrArg _ ih

/-- Mapping with a function that may fail can be done on both sides of the end of a stage with one value. -/
theorem within_tryMap_mergeMap_once {Q : α → Prop} {k : α → Stage σ ε β} {f : β → Except ε γ} {W : Multiset γ}
    (hf : ∀ x, Q x → Within P mayFail (tryMap f (k x)) W) (h : Once P mayFail Q stage) :
    Within P mayFail (tryMap f (mergeMap k stage)) W := by
  induction h with
  | item hx hr =>
    have hnothing : Within P mayFail (mergeMap k _) 0 := within_mergeMap (F := fun _ => 0) (by simp) hr.within
    have hrest : Within P mayFail (tryMap f (mergeMap k _)) 0 := within_tryMap (by simp) hnothing
    rw [mergeMap, tryMap_append, ← add_zero W]
    exact (hf _ hx).append hrest
  | fail hm => exact .fail hm .done (Multiset.zero_le W)
  | read _ ih => exact .read ih
  | write hs _ ih => exact .write hs ih

/-- A single value is kept if it is not left out. -/
theorem within_filterMap_once {Q : α → Prop} {f : α → Option β} {y : Option β} (hf : ∀ x, Q x → f x = y)
    (h : Once P mayFail Q stage) : Within P mayFail (filterMap f stage) (Multiset.ofList y.toList) := by
  induction h with
  | item hx hr =>
    have hrest : Within P mayFail (filterMap f _) 0 := within_filterMap f hr.within
    rw [filterMap, hf _ hx]
    cases y with
    | none => exact hrest
    | some y => exact .item hrest
  | fail hm => exact .fail hm .done (Multiset.zero_le _)
  | read _ ih => exact .read ih
  | write hs _ ih => exact .write hs ih

/-- With a value for the empty stream this is what it stays within if there is nothing else. -/
theorem within_defaultIfEmpty [DecidableEq α] (x : α) (h : Within P mayFail stage V) :
    Within P mayFail (defaultIfEmpty x stage) (if V = 0 then {x} else V) := by
  induction h with
  | done => exact .item .done
  | @item y _ V hr _ =>
    rw [if_neg (Multiset.cons_ne_zero)]
    exact .item hr
  | @fail e _ V W hm hr hle _ =>
    refine .fail hm hr ?_
    split
    · rename_i hV
      obtain rfl : W = 0 := by rwa [hV, Multiset.le_zero] at hle
      exact Multiset.zero_le _
    · exact hle
  | read _ ih => exact .read ih
  | write hs _ ih => exact .write hs ih

/-- Closing a round hands on what follows it, so nothing of the rounds is lost. -/
theorem within_upToRound {next : Stage σ ε (Option α) → Stage σ ε (Option α)} {U : Multiset α}
    (hn : ∀ {rounds W}, Within P mayFail (filterMap id rounds) W → Within P mayFail (filterMap id (next rounds)) (U + W))
    {rounds : Stage σ ε (Option α)} (h : Within P mayFail (filterMap id rounds) V) :
    Within P mayFail (filterMap id (upToRound next rounds)) (U + V) := by
  induction rounds generalizing V with
  | done => exact hn h
  | item x rest ih =>
    rcases x with e | _ | x
    · cases h with
      | fail hm hr hle => exact .fail hm (ih hr) (add_le_add_right hle U)
    · exact hn h
    · cases h with
      | item hr =>
        rw [Multiset.add_cons]
        exact .item (ih hr)
  | read go ih =>
    cases h with
    | read hr => exact .read fun s hs => ih s (hr s hs)
  | write s rest ih =>
    cases h with
    | write hs hr => exact .write hs (ih hr)

/-- Taking turns stays within both bags together. -/
theorem within_takeTurns {U : Multiset α} (h : Within P mayFail stage V) {rounds : Stage σ ε (Option α)}
    (hr : Within P mayFail (filterMap id rounds) U) :
    Within P mayFail (filterMap id (takeTurns stage rounds)) (V + U) := by
  induction h generalizing rounds U with
  | done =>
    rw [zero_add]
    exact hr
  | item _ ih =>
    rw [Multiset.cons_add]
    exact .item (within_upToRound ih hr)
  | fail hm _ hle ih => exact .fail hm (within_upToRound ih hr) (add_le_add_left hle U)
  | read _ ih => exact .read fun s hs => ih s hs hr
  | write hs _ ih => exact .write hs (ih hr)

/-- Merging streams stays within the sum of their bags. -/
theorem within_merge {stages : List (Stage σ ε α)} {Vs : List (Multiset α)}
    (h : List.Forall₂ (Within P mayFail) stages Vs) : Within P mayFail (merge stages) Vs.sum := by
  induction h with
  | nil => exact .done
  | cons h _ ih =>
    rw [List.sum_cons]
    exact within_takeTurns h ih

/-- Any value of the bag may come first. -/
theorem within_peek {f : Option α → Stage σ ε α → Stage σ ε β} {W : Multiset β}
    (hnone : V = 0 → Within P mayFail (f none .done) W)
    (hsome : ∀ x ∈ V, ∀ whole, Within P mayFail whole V → Within P mayFail (f (some x) whole) W)
    (h : Within P mayFail stage V) : Within P mayFail (peek f stage) W := by
  induction h with
  | done => exact hnone rfl
  | item h _ => exact hsome _ (Multiset.mem_cons_self _ _) _ (.item h)
  | fail hm _ _ _ => exact .failed _ W hm
  | read _ ih => exact .read fun s hs => ih s hs hnone hsome
  | write hs _ ih => exact .write hs (ih hnone hsome)

/-- Where failures are excluded, a handler has nothing to do. -/
theorem within_recover (handler : ε → Stage σ ε α) (hno : ¬ mayFail) (h : Within P mayFail stage V) :
    Within P mayFail (recover handler stage) V := by
  induction h with
  | done => exact .done
  | item _ ih => exact .item ih
  | fail hm _ _ _ => exact absurd hm hno
  | read _ ih => exact .read ih
  | write hs _ ih => exact .write hs ih

end Streaming

/-! ## Operators that work on whole lists -/

namespace Vectorized

variable {stage : Stage σ ε α} {V : Multiset α}

/-- What is made of a whole list stays within a bag if it is made so of every list that may come. -/
theorem within_materialize {Q : List α → Prop} {f : List α → σ → Except ε (List β) × σ} {W : Multiset β}
    (hf : ∀ xs, Q xs → ∀ s, P s → Ends P mayFail (Holds W) (f xs s)) (h : Runs P mayFail Q stage) :
    Within P mayFail (materialize f stage) W := by
  refine .read fun s hs => ?_
  have hends := h s hs
  rcases hc : stage.collect s with ⟨e | xs, t⟩
  · rw [hc] at hends
    exact .write hends.1 (.failed e W hends.2)
  · rw [hc] at hends
    exact (hf xs hends.2 t hends.1).within

/-- What a function makes of a whole list stays within a bag if it does for every list that may come. -/
theorem within_onList {Q : List α → Prop} {f : List α → List β} {W : Multiset β}
    (hf : ∀ xs, Q xs → Holds W (f xs)) (h : Runs P mayFail Q stage) : Within P mayFail (onList f stage) W :=
  within_materialize (fun xs hx _ hs => ⟨hs, hf xs hx⟩) h

/-- A function of the whole list gives one value if it does for every list that may come. -/
theorem once_onList {Q : List α → Prop} {R : β → Prop} {f : List α → List β} (hf : ∀ xs, Q xs → One R (f xs))
    (h : Runs P mayFail Q stage) : Once P mayFail R (onList f stage) := by
  refine .read fun s hs => ?_
  have hends := h s hs
  rcases hc : stage.collect s with ⟨e | xs, t⟩
  · rw [hc] at hends
    exact .write hends.1 (.fail hends.2)
  · rw [hc] at hends
    obtain ⟨y, hy, hR⟩ := hf xs hends.2
    dsimp only
    rw [hy]
    exact .write hends.1 (.item hR (.read fun _ _ => .done))

/-- The lists that a function makes of whole lists have a property if it gives them so. -/
theorem runs_onList {Q : List α → Prop} {R : List β → Prop} {f : List α → List β} (hf : ∀ xs, Q xs → R (f xs))
    (h : Runs P mayFail Q stage) : Runs P mayFail R (onList f stage) := by
  intro s hs
  have hends := h s hs
  rw [onList, materialize, collect_read]
  rcases hc : stage.collect s with ⟨e | xs, t⟩
  · rw [hc] at hends
    exact ⟨hends.1, hends.2⟩
  · rw [hc] at hends
    have hlist : Yields (fun u => u = t) (Stage.ofList (f xs) : Stage σ ε β) (f xs) := .ofList _
    obtain ⟨u, rfl, hl⟩ := hlist.collect rfl
    rw [collect_write, ofExcept, hl]
    exact ⟨hends.1, hf xs hends.2⟩

/-- Collecting one stage after another gives the values of all of them. -/
theorem collectEach_within {f : α → Stage σ ε β} {F : α → Multiset β} {xs : List α}
    (hf : ∀ x ∈ xs, Within P mayFail (f x) (F x)) {s : σ} (hs : P s) :
    Ends P mayFail (Holds ((xs : Multiset α).bind F)) (collectEach f xs s) := by
  induction xs generalizing s with
  | nil => exact ⟨hs, rfl⟩
  | cons x xs ih =>
    have hx := (hf x List.mem_cons_self).runs s hs
    rw [collectEach_cons]
    rcases hc : (f x).collect s with ⟨e | ys, t⟩
    · rw [hc] at hx
      exact hx
    · rw [hc] at hx
      have hrest := ih (fun y hy => hf y (List.mem_cons_of_mem x hy)) hx.1
      dsimp only
      rcases he : collectEach f xs t with ⟨e | zs, u⟩
      · rw [he] at hrest
        exact hrest
      · rw [he] at hrest
        refine ⟨hrest.1, ?_⟩
        rw [Holds, ← Multiset.cons_coe, Multiset.cons_bind, ← hrest.2, ← hx.2, Multiset.coe_add]

/-- On whole lists, merging stages that stay within bags stays within all of them together. -/
theorem within_mergeMap {f : α → Stage σ ε β} {F : α → Multiset β} (hf : ∀ x ∈ V, Within P mayFail (f x) (F x))
    (h : Within P mayFail stage V) : Within P mayFail (mergeMap f stage) (V.bind F) := by
  refine within_materialize (fun xs hx s hs => ?_) h.runs
  subst hx
  exact collectEach_within (fun x hx => hf x hx) hs

/-- On whole lists, a stage with one value goes on with what is merged for it. -/
theorem within_mergeMap_once {Q : α → Prop} {f : α → Stage σ ε β} {W : Multiset β}
    (hf : ∀ x, Q x → Within P mayFail (f x) W) (h : Once P mayFail Q stage) :
    Within P mayFail (mergeMap f stage) W := by
  refine within_materialize (fun xs hx s hs => ?_) h.runs
  obtain ⟨x, rfl, hx⟩ := hx
  have hf : ∀ y ∈ [x], Within P mayFail (f y) W := fun y hy => hf y (List.mem_singleton.1 hy ▸ hx)
  have hends := collectEach_within (F := fun _ => W) hf hs
  rw [Multiset.coe_singleton, Multiset.singleton_bind] at hends
  exact hends

/-- If a function that may fail has a value for every item of a list, these are the values; otherwise it fails for one
of them. -/
theorem mapM_toOption {f : α → Except ε β} (xs : List α) :
    (∀ ys, xs.mapM f = .ok ys → ys = xs.filterMap fun x => (f x).toOption) ∧
      ∀ e, xs.mapM f = .error e → ∃ x ∈ xs, f x = .error e := by
  induction xs with
  | nil => simp [pure, Except.pure]
  | cons x xs ih =>
    cases hx : f x with
    | error e => simp [List.mapM_cons, hx, bind, Except.bind]
    | ok y =>
      cases hr : xs.mapM f with
      | error e =>
        obtain ⟨z, hz, he⟩ := ih.2 e hr
        simp only [List.mapM_cons, hx, hr, bind, Except.bind, reduceCtorEq, false_imp_iff, implies_true, true_and,
          Except.error.injEq]
        rintro _ rfl
        exact ⟨z, List.mem_cons_of_mem x hz, he⟩
      | ok zs =>
        have hz := ih.1 zs hr
        simp [List.mapM_cons, hx, hr, bind, Except.bind, pure, Except.pure, Except.toOption, hz]

/-- A function that may fail, on lists whose values it has make up a bag. -/
theorem within_tryMap_runs {Q : List α → Prop} {f : α → Except ε β} {W : Multiset β}
    (hf : ∀ xs, Q xs → Holds W (xs.filterMap fun x => (f x).toOption))
    (hfail : ∀ xs, Q xs → ∀ x ∈ xs, ∀ e, f x = .error e → mayFail) (h : Runs P mayFail Q stage) :
    Within P mayFail (tryMap f stage) W := by
  refine within_materialize (fun xs hx s hs => ?_) h
  obtain ⟨hok, herror⟩ := mapM_toOption (f := f) xs
  cases hr : xs.mapM f with
  | ok ys =>
    refine ⟨hs, ?_⟩
    rw [hok ys hr]
    exact hf xs hx
  | error e =>
    obtain ⟨x, hxs, he⟩ := herror e hr
    exact ⟨hs, hfail xs hx x hxs e he⟩

/-- What is collected behind a single value is what is merged for it. -/
theorem runs_mergeMap_once {Q : α → Prop} {R : List β → Prop} {k : α → Stage σ ε β}
    (hk : ∀ x, Q x → Runs P mayFail R (k x)) (h : Once P mayFail Q stage) : Runs P mayFail R (mergeMap k stage) := by
  intro s hs
  have hends := h.runs s hs
  rw [mergeMap, materialize, collect_read]
  rcases hc : stage.collect s with ⟨e | xs, t⟩
  · rw [hc] at hends
    exact hends
  · rw [hc] at hends
    obtain ⟨ht, x, rfl, hx⟩ := hends
    have hrun := hk x hx t ht
    dsimp only
    rw [collectEach_cons]
    rcases hx : (k x).collect t with ⟨e | ys, u⟩
    · rw [hx] at hrun
      rw [collect_write]
      exact hrun
    · rw [hx] at hrun
      have hlist : Yields (fun v => v = u) (Stage.ofList ys : Stage σ ε β) ys := .ofList ys
      obtain ⟨v, rfl, hl⟩ := hlist.collect rfl
      rw [collect_write]
      simpa [collectEach, collectEachOnto, Except.map, ofExcept, hl] using hrun

/-- On whole lists, stages that are put together stay within the sum of their bags. -/
theorem within_merge {stages : List (Stage σ ε α)} {Vs : List (Multiset α)}
    (h : List.Forall₂ (Within P mayFail) stages Vs) : Within P mayFail (merge stages) Vs.sum := by
  refine .read fun s hs => ?_
  have hc : Ends P mayFail (Holds Vs.sum) (collectEach id stages s) := by
    induction h generalizing s with
    | nil => exact ⟨hs, rfl⟩
    | @cons first V stages Vs hx _ ih =>
      have hfirst := hx.runs s hs
      rw [collectEach_cons]
      dsimp only [id_eq]
      rcases hc : first.collect s with ⟨e | ys, t⟩
      · rw [hc] at hfirst
        exact hfirst
      · rw [hc] at hfirst
        have hrest := ih t hfirst.1
        dsimp only
        rcases he : collectEach id stages t with ⟨e | zs, u⟩
        · rw [he] at hrest
          exact hrest
        · rw [he] at hrest
          refine ⟨hrest.1, ?_⟩
          rw [Holds, List.sum_cons, ← hrest.2, ← hfirst.2, Multiset.coe_add]
  exact hc.within

/-- A peek stays within a bag if it does for no value and for each first value. -/
theorem within_peek {f : Option α → Stage σ ε α → Stage σ ε β} {W : Multiset β}
    (hnone : V = 0 → Within P mayFail (f none .done) W)
    (hsome : ∀ x ∈ V, ∀ whole, Within P mayFail whole V → Within P mayFail (f (some x) whole) W)
    (h : Within P mayFail stage V) : Within P mayFail (peek f stage) W := by
  refine within_materialize (fun xs hx s hs => ?_) h.runs
  cases xs with
  | nil => exact (hnone hx.symm).runs s hs
  | cons x xs =>
    have hfirst : x ∈ V := hx ▸ List.mem_cons_self
    exact (hsome x hfirst _ (hx ▸ .ofList (x :: xs))).runs s hs

/-- Where failures are excluded, a handler has nothing to do on whole lists either. -/
theorem within_recover (handler : ε → Stage σ ε α) (hno : ¬ mayFail) (h : Within P mayFail stage V) :
    Within P mayFail (recover handler stage) V := by
  refine .read fun s hs => ?_
  have hends := h.runs s hs
  rcases hc : stage.collect s with ⟨e | xs, t⟩
  · rw [hc] at hends
    exact absurd hends.2 hno
  · rw [hc] at hends
    obtain ⟨ht, rfl⟩ := hends
    exact .write ht (.ofList xs)

end Vectorized

end Stage

/-! ## Operators of an engine -/

namespace Engine

open Stage

variable {σ ε α β γ : Type} {P : σ → Prop} {mayFail : Prop} {stage : Stage σ ε α} {V : Multiset α} (g : Engine)

/-- On either engine, mapping stays within what is mapped. -/
theorem within_map (f : α → β) (h : Within P mayFail stage V) : Within P mayFail (g.map f stage) (V.map f) := by
  cases g with
  | streaming => exact Streaming.within_map f h
  | vectorized =>
    refine Vectorized.within_onList (fun xs hx => ?_) h.runs
    rw [Holds, ← Multiset.map_coe, hx]

/-- On either engine, leaving values out stays within the others. -/
theorem within_filterMap (f : α → Option β) (h : Within P mayFail stage V) :
    Within P mayFail (g.filterMap f stage) (V.filterMap f) := by
  cases g with
  | streaming => exact Streaming.within_filterMap f h
  | vectorized =>
    refine Vectorized.within_onList (fun xs hx => ?_) h.runs
    rw [Holds, ← Multiset.filterMap_coe, hx]

/-- A filter stays within what passes. -/
theorem within_filter (p : α → Bool) (h : Within P mayFail stage V) :
    Within P mayFail (g.filter p stage) (V.filter fun x => p x = true) := by
  have hguard : (fun x => if p x then some x else none) = Option.guard fun x => decide (p x = true) := by
    funext x
    simp [Option.guard]
  rw [filter, hguard, ← Multiset.filterMap_eq_filter]
  exact g.within_filterMap _ h

/-- Merging stages that stay within bags stays within all of them together. -/
theorem within_mergeMap {f : α → Stage σ ε β} {F : α → Multiset β} (hf : ∀ x ∈ V, Within P mayFail (f x) (F x))
    (h : Within P mayFail stage V) : Within P mayFail (g.mergeMap f stage) (V.bind F) := by
  cases g with
  | streaming => exact Streaming.within_mergeMap hf h
  | vectorized => exact Vectorized.within_mergeMap hf h

/-- The first value of a stage tells whether the bag is empty. -/
theorem runs_limit (h : Within P mayFail stage V) : Runs P mayFail (Tells V) (g.limit 1 stage) := by
  cases g with
  | streaming => exact Streaming.runs_limit h
  | vectorized =>
    refine Vectorized.runs_onList (fun xs hx => ?_) h.runs
    subst hx
    cases xs with
    | nil => exact tells_zero
    | cons x xs => exact tells_cons x xs

/-- Gathering gives one list of the values. -/
theorem once_gather (h : Within P mayFail stage V) : Once P mayFail (Holds V) (g.gather stage) := by
  cases g with
  | streaming => exact Streaming.once_gather h
  | vectorized => exact Vectorized.once_onList (fun xs hx => ⟨xs, rfl, hx⟩) h.runs

/-- Gathering what a limit of one leaves tells whether there is anything. -/
theorem once_gather_limit (h : Within P mayFail stage V) :
    Once P mayFail (Tells V) (g.gather (g.limit 1 stage)) := by
  cases g with
  | streaming => exact Streaming.once_gather_limit h
  | vectorized =>
    exact Vectorized.once_onList (fun xs hx => ⟨xs, rfl, hx⟩) (Engine.vectorized.runs_limit h)

/-- A single value is mapped to a single value. -/
theorem once_map {Q : α → Prop} {R : β → Prop} {f : α → β} (hf : ∀ x, Q x → R (f x)) (h : Once P mayFail Q stage) :
    Once P mayFail R (g.map f stage) := by
  cases g with
  | streaming => exact Streaming.once_map hf h
  | vectorized =>
    refine Vectorized.once_onList (fun xs hx => ?_) h.runs
    obtain ⟨x, rfl, hx⟩ := hx
    exact ⟨f x, rfl, hf x hx⟩

/-- A stage with one value goes on with what is merged for it. -/
theorem within_mergeMap_once {Q : α → Prop} {f : α → Stage σ ε β} {W : Multiset β}
    (hf : ∀ x, Q x → Within P mayFail (f x) W) (h : Once P mayFail Q stage) :
    Within P mayFail (g.mergeMap f stage) W := by
  cases g with
  | streaming => exact Streaming.within_mergeMap_once hf h
  | vectorized => exact Vectorized.within_mergeMap_once hf h

/-- What makes of one value, whichever it is, the same optional value stays within that. -/
theorem within_filterMap_once {Q : α → Prop} {f : α → Option β} {y : Option β} (hf : ∀ x, Q x → f x = y)
    (h : Once P mayFail Q stage) : Within P mayFail (g.filterMap f stage) (Multiset.ofList y.toList) := by
  cases g with
  | streaming => exact Streaming.within_filterMap_once hf h
  | vectorized =>
    refine Vectorized.within_onList (fun xs hx => ?_) h.runs
    obtain ⟨x, rfl, hx⟩ := hx
    have hy := hf x hx
    cases y <;> simp [Holds, hy]

/-- What is done with the list of all values gives the same bag for every order. -/
theorem within_mergeMap_gather {f : List α → Stage σ ε β} {W : Multiset β}
    (hf : ∀ xs, Holds V xs → Within P mayFail (f xs) W) (h : Within P mayFail stage V) :
    Within P mayFail (g.mergeMap f (g.gather stage)) W :=
  g.within_mergeMap_once hf (g.once_gather h)

/-- What rearranges lists of values stays within the bag it takes them to. -/
theorem within_rearrange {f : List α → List β} {W : Multiset β} (hf : ∀ xs, Holds V xs → Holds W (f xs))
    (h : Within P mayFail stage V) : Within P mayFail (g.rearrange f stage) W := by
  refine g.within_mergeMap_once (fun xs hx => ?_) (g.once_map hf (g.once_gather h))
  rw [← hx]
  exact .ofList xs

/-- What is made of a rearranged list may fail, and it may be the same for every order even if the rearranged list is
not. -/
theorem within_tryMap_rearrange {h : List α → List β} {f : β → Except ε γ} {W : Multiset γ}
    (hf : ∀ xs, Holds V xs → Holds W ((h xs).filterMap fun y => (f y).toOption))
    (hfail : ∀ xs, Holds V xs → ∀ y ∈ h xs, ∀ e, f y = .error e → mayFail) (hs : Within P mayFail stage V) :
    Within P mayFail (g.tryMap f (g.rearrange h stage)) W := by
  have honce : Once P mayFail (fun ys => ∃ xs, Holds V xs ∧ ys = h xs) (g.map h (g.gather stage)) :=
    g.once_map (fun xs hx => ⟨xs, hx, rfl⟩) (g.once_gather hs)
  cases g with
  | streaming =>
    refine Streaming.within_tryMap_mergeMap_once (fun ys hys => ?_) honce
    obtain ⟨xs, hx, rfl⟩ := hys
    rw [← hf xs hx, ← Multiset.filterMap_coe]
    exact Streaming.within_tryMap (hfail xs hx) (.ofList (h xs))
  | vectorized =>
    have hruns := Vectorized.runs_mergeMap_once (R := fun ys => ∃ xs, Holds V xs ∧ ys = h xs)
      (k := (Stage.ofList : List β → Stage σ ε β)) (fun ys hys s hs => ?_) honce
    · refine Vectorized.within_tryMap_runs (fun ys hys => ?_) (fun ys hys => ?_) hruns
      · obtain ⟨xs, hx, rfl⟩ := hys
        exact hf xs hx
      · obtain ⟨xs, hx, rfl⟩ := hys
        exact hfail xs hx
    · obtain ⟨t, ht, hc⟩ := (Yields.ofList (P := P) ys).collect hs
      rw [hc]
      exact ⟨ht, hys⟩

/-- Where keys tell values apart each value is kept once. -/
theorem within_distinct [DecidableEq α] [Keyed γ] {key : α → γ} (hkey : ∀ x y, key x = key y → x = y)
    (h : Within P mayFail stage V) : Within P mayFail (g.distinct key stage) V.dedup := by
  rw [← fresh_empty key]
  cases g with
  | streaming => exact Streaming.within_distinct hkey .empty h
  | vectorized =>
    refine Vectorized.within_onList (fun xs hx => ?_) h.runs
    subst hx
    exact holds_firstsFrom hkey .empty xs

/-- Runs of a buffer, each handed to a function that delivers a bag for each of their values. -/
theorem within_mergeMap_buffer {f : List α → Stage σ ε β} {F : α → Multiset β} (size : Nat)
    (hf : ∀ run : List α, run.length ≤ max size 1 → Within P mayFail (f run) ((run : Multiset α).bind F))
    (h : Within P mayFail stage V) : Within P mayFail (g.mergeMap f (g.buffer size stage)) (V.bind F) := by
  have hp : 0 < max size 1 := by omega
  cases g with
  | streaming =>
    have hb := Streaming.within_mergeMap_buffer hf 0 [] rfl hp h
    rwa [Multiset.coe_nil, zero_add] at hb
  | vectorized =>
    have hruns : Runs P mayFail (fun runs => Holds V runs.flatten ∧ ∀ run ∈ runs, run.length ≤ max size 1)
        (Engine.vectorized.buffer size stage) := by
      refine Vectorized.runs_onList (fun xs hx => ⟨?_, fun run hr => ?_⟩) h.runs
      · rw [Vectorized.chunks, Vectorized.flatten_chunksOnto hp [] xs le_rfl]
        exact hx
      · exact Vectorized.length_le_of_mem_chunksOnto (by simp) hr
    refine Vectorized.within_materialize (fun runs hr s hs => ?_) hruns
    have hends := Vectorized.collectEach_within (fun run hrun => hf run (hr.2 run hrun)) hs
    rwa [bind_flatten, hr.1] at hends

/-- A default stands in where the bag is empty; elsewhere the stage stays within the bag. -/
theorem within_defaultIfEmpty [DecidableEq α] (x : α) (h : Within P mayFail stage V) :
    Within P mayFail (g.defaultIfEmpty x stage) (if V = 0 then {x} else V) := by
  cases g with
  | streaming => exact Streaming.within_defaultIfEmpty x h
  | vectorized =>
    refine Vectorized.within_onList (fun xs hx => ?_) h.runs
    subst hx
    cases xs <;> simp [Holds]

/-- Merged stages deliver the values of all of them. -/
theorem within_merge {stages : List (Stage σ ε α)} {Vs : List (Multiset α)}
    (h : List.Forall₂ (Within P mayFail) stages Vs) : Within P mayFail (g.merge stages) Vs.sum := by
  cases g with
  | streaming => exact Streaming.within_merge h
  | vectorized => exact Vectorized.within_merge h

/-- A stage that is chosen by the first value, whichever comes first. -/
theorem within_peek {f : Option α → Stage σ ε α → Stage σ ε β} {W : Multiset β}
    (hnone : V = 0 → Within P mayFail (f none .done) W)
    (hsome : ∀ x ∈ V, ∀ whole, Within P mayFail whole V → Within P mayFail (f (some x) whole) W)
    (h : Within P mayFail stage V) : Within P mayFail (g.peek f stage) W := by
  cases g with
  | streaming => exact Streaming.within_peek hnone hsome h
  | vectorized => exact Vectorized.within_peek hnone hsome h

/-- Where no failure is allowed there is nothing to recover from. -/
theorem within_recover (handler : ε → Stage σ ε α) (hno : ¬ mayFail) (h : Within P mayFail stage V) :
    Within P mayFail (g.recover handler stage) V := by
  cases g with
  | streaming => exact Streaming.within_recover handler hno h
  | vectorized => exact Vectorized.within_recover handler hno h

/-- A stage that is chosen by the first value of a list. -/
theorem within_peek_ofList {f : Option α → Stage σ ε α → Stage σ ε β} {xs : List α} {W : Multiset β}
    (h : Within P mayFail (f xs.head? (Stage.ofList xs)) W) : Within P mayFail (g.peek f (Stage.ofList xs)) W := by
  cases g with
  | streaming =>
    cases xs with
    | nil => exact h
    | cons x xs => exact h
  | vectorized =>
    refine .read fun s hs => ?_
    obtain ⟨t, ht, hc⟩ := (Yields.ofList (P := P) xs).collect hs
    rw [hc]
    exact (h.runs t ht).within

end Engine

end SparqlAlgebra

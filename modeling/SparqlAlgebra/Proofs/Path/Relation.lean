import Mathlib.Data.List.Nodup
import Mathlib.Data.List.Perm.Subperm
import Mathlib.Logic.Relation
import SparqlAlgebra.Path.Reach

/-!
# Paths as relations

A path relates terms of a list of triples. Following a path from a term, forwards or backwards, finds the terms that
it is related to, each once. Different terms that are related are subjects or objects, and so are related terms
in general unless the path may be empty.

Following a step over and over keeps a stack of terms whose followers are still to be looked at. All that is found
is reached, and what is found or waits on the stack is closed under steps; the fuel outlasts the stack, because
each term of the triples is put on it at most once.
-/

namespace SparqlAlgebra

/-! ## Closures -/

namespace Path

variable {next : Term → List Term} {x y : Term} {seen : KeySet Term} {found stack : List Term}

/-- One step leads from a term to another one. -/
def Follows (next : Term → List Term) (x y : Term) : Prop := y ∈ next x

/-- What holds of a closure from a start on the way. -/
structure Frontier (next : Term → List Term) (x : Term) (includeStart : Bool) (seen : KeySet Term)
    (found stack : List Term) : Prop where
  /-- What has been seen is what has been found. -/
  seen_iff : ∀ y, seen.contains y = true ↔ y ∈ found
  /-- Nothing has been found twice. -/
  nodup : found.Nodup
  /-- All that is found is the start or reached from it. -/
  reached : ∀ y ∈ found, (includeStart = true ∧ y = x) ∨ Relation.TransGen (Follows next) x y
  /-- All that waits can be reached. -/
  pending : ∀ y ∈ stack, Relation.ReflTransGen (Follows next) x y
  /-- What does not wait any more has all its followers found. -/
  closed : ∀ y, y = x ∨ y ∈ found → y ∈ stack ∨ ∀ z ∈ next y, z ∈ found
  /-- The start has been found if it is included. -/
  start_mem : includeStart = true → x ∈ found

/-- At first only the start waits, and it is found if it is included. -/
theorem frontier_start (next : Term → List Term) (x : Term) (includeStart : Bool) :
    Frontier next x includeStart (.ofList (if includeStart then [x] else [])) (if includeStart then [x] else [])
      [x] where
  seen_iff y := KeySet.contains_ofList _ y
  nodup := by
    cases includeStart <;> simp
  reached y hy := by
    cases includeStart with
    | false => simp at hy
    | true => exact .inl ⟨rfl, by simpa using hy⟩
  pending y hy := by
    rw [List.mem_singleton.1 hy]
  closed y hy := by
    refine .inl (List.mem_singleton.2 ?_)
    rcases hy with hy | hy
    · exact hy
    · cases includeStart with
      | false => simp at hy
      | true => simpa using hy
  start_mem h := by
    rw [h]
    exact List.mem_singleton_self x

/-- Following the term on top of the stack keeps the frontier. -/
theorem Frontier.follow {includeStart : Bool} (hf : Frontier next x includeStart seen found (y :: stack))
    (hnext : (next y).Nodup) :
    let new := (next y).filter fun z => !seen.contains z
    Frontier next x includeStart (seen.insertAll new) (new.reverse ++ found) (new.reverse ++ stack) := by
  intro new
  have hnew : ∀ z, z ∈ new ↔ z ∈ next y ∧ z ∉ found := by
    intro z
    rw [List.mem_filter, ← hf.seen_iff]
    simp
  have hy := hf.pending y List.mem_cons_self
  constructor
  · intro z
    rw [KeySet.contains_insertAll, hf.seen_iff, List.mem_append, List.mem_reverse]
  · rw [List.nodup_append]
    refine ⟨(List.nodup_reverse).2 (hnext.filter _), hf.nodup, ?_⟩
    intro a ha b hb hab
    rw [List.mem_reverse, hnew] at ha
    exact ha.2 (hab ▸ hb)
  · intro z hz
    rcases List.mem_append.1 hz with hz | hz
    · rw [List.mem_reverse, hnew] at hz
      exact .inr (Relation.TransGen.tail' hy hz.1)
    · exact hf.reached z hz
  · intro z hz
    rcases List.mem_append.1 hz with hz | hz
    · rw [List.mem_reverse, hnew] at hz
      exact hy.tail hz.1
    · exact hf.pending z (List.mem_cons_of_mem _ hz)
  · intro z hz
    by_cases hzn : z ∈ new
    · exact .inl (List.mem_append_left _ (List.mem_reverse.2 hzn))
    · have hzf : z = x ∨ z ∈ found := by
        refine hz.imp id fun h => ?_
        exact (List.mem_append.1 h).resolve_left fun h => hzn (List.mem_reverse.1 h)
      by_cases hzy : z = y
      · subst hzy
        refine .inr fun w hw => List.mem_append.2 ?_
        by_cases hwf : w ∈ found
        · exact .inr hwf
        · exact .inl (List.mem_reverse.2 ((hnew w).2 ⟨hw, hwf⟩))
      · rcases hf.closed z hzf with h | h
        · refine .inl (List.mem_append_right _ ?_)
          exact (List.mem_cons.1 h).resolve_left hzy
        · exact .inr fun w hw => List.mem_append_right _ (h w hw)
  · exact fun h => List.mem_append_right _ (hf.start_mem h)

/-- With an empty stack exactly what is reached is found. -/
theorem Frontier.mem_found_iff {includeStart : Bool} (hf : Frontier next x includeStart seen found []) (y : Term) :
    y ∈ found ↔ (includeStart = true ∧ y = x) ∨ Relation.TransGen (Follows next) x y := by
  have hclosed : ∀ z, z = x ∨ z ∈ found → ∀ w ∈ next z, w ∈ found := by
    intro z hz
    exact (hf.closed z hz).resolve_left List.not_mem_nil
  constructor
  · exact hf.reached y
  · rintro (⟨hi, rfl⟩ | h)
    · exact hf.start_mem hi
    · induction h with
      | single h => exact hclosed x (.inl rfl) _ h
      | tail _ h ih => exact hclosed _ (.inr ih) _ h

/-- How many terms of a list have not been seen. -/
def unseen (seen : KeySet Term) (terms : List Term) : Nat := terms.countP fun z => !seen.contains z

/-- Terms that are put on the stack are no longer unseen. -/
theorem unseen_insertAll {terms new : List Term} (ht : terms.Nodup) (hn : new.Nodup) (hsub : ∀ z ∈ new, z ∈ terms)
    (hnew : ∀ z ∈ new, seen.contains z = false) :
    unseen (seen.insertAll new) terms + new.length = unseen seen terms := by
  have hperm : new.Perm (terms.filter fun z => decide (z ∈ new)) := by
    rw [List.perm_ext_iff_of_nodup hn (ht.filter _)]
    intro z
    rw [List.mem_filter, decide_eq_true_iff]
    exact ⟨fun h => ⟨hsub z h, h⟩, fun h => h.2⟩
  have hlen : new.length = terms.countP fun z => decide (z ∈ new) := by
    rw [hperm.length_eq, List.countP_eq_length_filter]
  rw [hlen, unseen, unseen]
  clear hperm hlen ht hsub
  induction terms with
  | nil => rfl
  | cons z terms ih =>
    rw [List.countP_cons, List.countP_cons, List.countP_cons]
    by_cases hz : z ∈ new
    · have hs := hnew z hz
      have hi : (seen.insertAll new).contains z = true := (KeySet.contains_insertAll ..).2 (.inl hz)
      simp only [hs, hi, hz, Bool.not_true, Bool.not_false, decide_true, if_true, Bool.false_eq_true, if_false]
      omega
    · have hi : (seen.insertAll new).contains z = seen.contains z := by
        rw [Bool.eq_iff_iff, KeySet.contains_insertAll]
        simp [hz]
      simp only [hi, hz, decide_false, Bool.false_eq_true, if_false]
      omega

/-- The run of a closure until nothing waits on the stack, whatever number of steps it takes. -/
inductive Closes (next : Term → List Term) : KeySet Term → List Term → List Term → List Term → Prop
  | done {seen : KeySet Term} {found : List Term} : Closes next seen found [] found.reverse
  | step {seen : KeySet Term} {found stack out : List Term} {y : Term} :
      Closes next (seen.insertAll ((next y).filter fun z => !seen.contains z))
        (((next y).filter fun z => !seen.contains z).reverse ++ found)
        (((next y).filter fun z => !seen.contains z).reverse ++ stack) out →
      Closes next seen found (y :: stack) out

/-- With enough fuel the stack runs empty. -/
theorem closes_closeFrom {terms : List Term} {fuel : Nat} (hnext : ∀ y, (next y).Nodup) (hterms : terms.Nodup)
    (hclosed : ∀ y ∈ x :: terms, ∀ z ∈ next y, z ∈ terms) (hstack : ∀ y ∈ stack, y ∈ x :: terms)
    (hfuel : stack.length + unseen seen terms ≤ fuel) :
    Closes next seen found stack (closeFrom next fuel seen found stack) := by
  induction fuel generalizing seen found stack with
  | zero =>
    have hs : stack = [] := List.length_eq_zero_iff.1 (by omega)
    subst hs
    exact .done
  | succ fuel ih =>
    cases stack with
    | nil => exact .done
    | cons y stack =>
      have hy := hclosed y (hstack y List.mem_cons_self)
      have hsub : ∀ z ∈ (next y).filter fun z => !seen.contains z, z ∈ terms :=
        fun z hz => hy z (List.mem_filter.1 hz).1
      have hnew : ∀ z ∈ (next y).filter fun z => !seen.contains z, seen.contains z = false :=
        fun z hz => by simpa using (List.mem_filter.1 hz).2
      have hcount := unseen_insertAll hterms ((hnext y).filter fun z => !seen.contains z) hsub hnew
      rw [closeFrom]
      refine .step (ih ?_ ?_)
      · intro z hz
        rcases List.mem_append.1 hz with hz | hz
        · exact List.mem_cons_of_mem _ (hy z (List.mem_filter.1 (List.mem_reverse.1 hz)).1)
        · exact hstack z (List.mem_cons_of_mem _ hz)
      · rw [List.length_cons] at hfuel
        rw [List.length_append, List.length_reverse]
        omega

/-- A run that keeps the frontier finds exactly what is reached, each term once. -/
theorem Closes.correct {includeStart : Bool} {out : List Term} (h : Closes next seen found stack out)
    (hnext : ∀ y, (next y).Nodup) (hf : Frontier next x includeStart seen found stack) :
    out.Nodup ∧ ∀ y, y ∈ out ↔ (includeStart = true ∧ y = x) ∨ Relation.TransGen (Follows next) x y := by
  induction h with
  | done => exact ⟨List.nodup_reverse.2 hf.nodup, fun y => List.mem_reverse.trans (hf.mem_found_iff y)⟩
  | step _ ih => exact ih (hf.follow (hnext _))

end Path

/-! ## Relations -/

namespace Path

/-- The terms that a path relates. -/
def Relates (ts : List Triple) : Path → Term → Term → Prop
  | .iri i => fun x y => ∃ t ∈ ts, t.subject.toTerm = x ∧ t.predicate = i ∧ t.object = y
  | .negated is => fun x y => ∃ t ∈ ts, t.subject.toTerm = x ∧ t.predicate ∉ is ∧ t.object = y
  | .inverse p => fun x y => p.Relates ts y x
  | .sequence p q => fun x y => ∃ z, p.Relates ts x z ∧ q.Relates ts z y
  | .alternative p q => fun x y => p.Relates ts x y ∨ q.Relates ts x y
  | .zeroOrMore p => Relation.ReflTransGen (p.Relates ts)
  | .oneOrMore p => Relation.TransGen (p.Relates ts)
  | .zeroOrOne p => fun x y => p.Relates ts x y ∨ x = y

/-- Whether a path can match the empty path. -/
def nullable : Path → Bool
  | .iri _ => false
  | .negated _ => false
  | .inverse p => p.nullable
  | .sequence p q => p.nullable && q.nullable
  | .alternative p q => p.nullable || q.nullable
  | .zeroOrMore _ => true
  | .oneOrMore p => p.nullable
  | .zeroOrOne _ => true

variable {ts : List Triple} {p : Path} {x y z : Term}

/-- The nodes of a graph are its subjects and objects. -/
theorem mem_nodes : x ∈ nodes ts ↔ ∃ t ∈ ts, x = t.subject.toTerm ∨ x = t.object := by
  simp [nodes]

/-- Each of them is listed once. -/
theorem nodup_nodes (ts : List Triple) : (nodes ts).Nodup := nodup_firsts _

/-- Related terms are the same or both occur in the triples. -/
theorem Relates.eq_or_mem (h : p.Relates ts x y) : x = y ∨ (x ∈ nodes ts ∧ y ∈ nodes ts) := by
  induction p generalizing x y with
  | iri i =>
    obtain ⟨t, ht, rfl, -, rfl⟩ := h
    exact .inr ⟨mem_nodes.2 ⟨t, ht, .inl rfl⟩, mem_nodes.2 ⟨t, ht, .inr rfl⟩⟩
  | negated is =>
    obtain ⟨t, ht, rfl, -, rfl⟩ := h
    exact .inr ⟨mem_nodes.2 ⟨t, ht, .inl rfl⟩, mem_nodes.2 ⟨t, ht, .inr rfl⟩⟩
  | inverse p ih => exact (ih h).imp Eq.symm And.symm
  | sequence p q ihp ihq =>
    obtain ⟨z, hp, hq⟩ := h
    rcases ihp hp with rfl | hxz
    · exact ihq hq
    · rcases ihq hq with rfl | hzy
      · exact .inr hxz
      · exact .inr ⟨hxz.1, hzy.2⟩
  | alternative p q ihp ihq => exact h.elim ihp ihq
  | zeroOrMore p ih =>
    induction h with
    | refl => exact .inl rfl
    | tail _ h iht =>
      rcases iht with rfl | hx
      · exact ih h
      · rcases ih h with rfl | hy
        · exact .inr hx
        · exact .inr ⟨hx.1, hy.2⟩
  | oneOrMore p ih =>
    induction h with
    | single h => exact ih h
    | tail _ h iht =>
      rcases iht with rfl | hx
      · exact ih h
      · rcases ih h with rfl | hy
        · exact .inr hx
        · exact .inr ⟨hx.1, hy.2⟩
  | zeroOrOne p ih => exact h.elim ih .inl

/-- More triples relate more terms. -/
theorem Relates.mono {us : List Triple} (hsub : ∀ t ∈ ts, t ∈ us) (h : p.Relates ts x y) : p.Relates us x y := by
  induction p generalizing x y with
  | iri i =>
    obtain ⟨t, ht, h⟩ := h
    exact ⟨t, hsub t ht, h⟩
  | negated is =>
    obtain ⟨t, ht, h⟩ := h
    exact ⟨t, hsub t ht, h⟩
  | inverse p ih => exact ih h
  | sequence p q ihp ihq =>
    obtain ⟨z, hp, hq⟩ := h
    exact ⟨z, ihp hp, ihq hq⟩
  | alternative p q ihp ihq => exact h.imp ihp ihq
  | zeroOrMore p ih => exact Relation.ReflTransGen.mono (fun _ _ => ih) _ _ h
  | oneOrMore p ih => exact Relation.TransGen.mono (fun _ _ => ih) _ _ h
  | zeroOrOne p ih => exact h.imp ih id

/-- A path has its start in the graph if and only if it has its end there. -/
theorem Relates.mem_left_iff (h : p.Relates ts x y) : x ∈ nodes ts ↔ y ∈ nodes ts := by
  rcases h.eq_or_mem with rfl | ⟨hx, hy⟩
  · exact Iff.rfl
  · exact ⟨fun _ => hy, fun _ => hx⟩

/-- A path that cannot be empty relates terms of the triples. -/
theorem Relates.mem_nodes (h : p.Relates ts x y) (hp : p.nullable = false) : x ∈ nodes ts ∧ y ∈ nodes ts := by
  have hleft : x ∈ nodes ts := by
    induction p generalizing x y with
    | iri i =>
      obtain ⟨t, ht, rfl, -, -⟩ := h
      exact Path.mem_nodes.2 ⟨t, ht, .inl rfl⟩
    | negated is =>
      obtain ⟨t, ht, rfl, -, -⟩ := h
      exact Path.mem_nodes.2 ⟨t, ht, .inl rfl⟩
    | inverse p ih =>
      have hy := ih h hp
      exact (Relates.mem_left_iff h).2 hy
    | sequence p q ihp ihq =>
      obtain ⟨z, hxz, hzy⟩ := h
      rw [nullable, Bool.and_eq_false_iff] at hp
      rcases hp with hp | hq
      · exact ihp hxz hp
      · exact (Relates.mem_left_iff hxz).2 (ihq hzy hq)
    | alternative p q ihp ihq =>
      rw [nullable, Bool.or_eq_false_iff] at hp
      exact h.elim (fun h => ihp h hp.1) fun h => ihq h hp.2
    | zeroOrMore p _ => simp [nullable] at hp
    | oneOrMore p ih =>
      obtain ⟨z, hxz, -⟩ := Relation.TransGen.head'_iff.1 h
      exact ih hxz hp
    | zeroOrOne p _ => simp [nullable] at hp
  exact ⟨hleft, h.mem_left_iff.1 hleft⟩

namespace Direction

/-- The relation of a path, seen in a direction. -/
def Relates (ts : List Triple) (p : Path) : Direction → Term → Term → Prop
  | .forward => p.Relates ts
  | .backward => fun x y => p.Relates ts y x

end Direction

/-- There are at most two nodes for each triple. -/
theorem length_nodes_le (ts : List Triple) : (nodes ts).length ≤ 2 * ts.length := by
  have hsub : nodes ts ⊆ ts.flatMap fun t => [t.subject.toTerm, t.object] := fun x hx => mem_firsts.1 hx
  have hle := (List.subperm_of_subset (nodup_nodes ts) hsub).length_le
  have hlen : (ts.flatMap fun t => [t.subject.toTerm, t.object]).length = 2 * ts.length := by
    rw [List.length_flatMap]
    induction ts with
    | nil => rfl
    | cons t ts ih => simp_all; omega
  omega

/-- A closure never runs out of fuel: it ends with nothing left on the stack. -/
theorem closes_close {next : Term → List Term} (hnext : ∀ y, (next y).Nodup)
    (hstep : ∀ y, ∀ z ∈ next y, y = z ∨ (y ∈ nodes ts ∧ z ∈ nodes ts)) (includeStart : Bool) (x : Term) :
    Closes next (.ofList (if includeStart then [x] else [])) (if includeStart then [x] else []) [x]
      (close ts next includeStart x) := by
  have hmem : ∀ y, y ∈ firsts (x :: nodes ts) ↔ y = x ∨ y ∈ nodes ts := by
    intro y
    rw [mem_firsts, List.mem_cons]
  have hlen : (firsts (x :: nodes ts)).length ≤ closeFuel ts - 1 := by
    have hsub : firsts (x :: nodes ts) ⊆ x :: nodes ts := fun y hy => mem_firsts.1 hy
    have hle := (List.subperm_of_subset (nodup_firsts (x :: nodes ts)) hsub).length_le
    have hn := length_nodes_le ts
    rw [List.length_cons] at hle
    rw [closeFuel]
    omega
  refine closes_closeFrom (x := x) hnext (nodup_firsts (x :: nodes ts)) ?_ ?_ ?_
  · intro y hy z hz
    rw [hmem]
    rcases hstep y z hz with rfl | ⟨-, hz⟩
    · rcases List.mem_cons.1 hy with hy | hy
      · exact .inl hy
      · exact (hmem y).1 hy
    · exact .inr hz
  · intro y hy
    rw [List.mem_singleton.1 hy]
    exact List.mem_cons_self
  · have hu : unseen (.ofList (if includeStart then [x] else [])) (firsts (x :: nodes ts)) ≤
        (firsts (x :: nodes ts)).length := List.countP_le_length
    rw [closeFuel] at *
    rw [List.length_singleton]
    omega

/-- A closure finds what any number of steps reaches, or what at least one does. -/
theorem mem_close {next : Term → List Term} (hnext : ∀ y, (next y).Nodup)
    (hstep : ∀ y, ∀ z ∈ next y, y = z ∨ (y ∈ nodes ts ∧ z ∈ nodes ts)) (includeStart : Bool) (x : Term) :
    (close ts next includeStart x).Nodup ∧ ∀ y, y ∈ close ts next includeStart x ↔
      (includeStart = true ∧ y = x) ∨ Relation.TransGen (Follows next) x y :=
  (closes_close hnext hstep includeStart x).correct hnext (frontier_start next x includeStart)

end Path

end SparqlAlgebra

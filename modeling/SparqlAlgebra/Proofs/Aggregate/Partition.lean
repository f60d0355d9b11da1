import SparqlAlgebra.Plan.Group
import SparqlAlgebra.Proofs.Aggregate.Columns
import SparqlAlgebra.Proofs.Solution.Rename

/-!
# Grouping is a partition

The groups of some solutions have different key values, where leaving a variable open is a value of its own, and they
come in the order of their first members. Each solution is a member of the group with its key values and of no other,
in the place that it has among the solutions, and a group binds what its key values are.
-/

namespace SparqlAlgebra

namespace KeySet

variable {κ : Type} [Keyed κ] [BEq κ] [LawfulBEq κ]

/-- The firsts come in the order in which they occur for the first time. -/
theorem pairwise_idxOf_firstsFrom (seen : KeySet κ) (xs : List κ) :
    (firstsFrom id seen [] xs).Pairwise fun x y => xs.idxOf x < xs.idxOf y := by
  induction xs generalizing seen with
  | nil => exact .nil
  | cons a xs ih =>
    have hlater : ∀ {x : κ}, x ≠ a → (a :: xs).idxOf x = xs.idxOf x + 1 :=
      fun hx => List.idxOf_cons_ne xs hx.symm
    -- What follows does not have the head, which is in the set, so all of it moves on by one place.
    have hshift : ∀ seen : KeySet κ, seen.contains a = true →
        (firstsFrom id seen [] xs).Pairwise fun x y => (a :: xs).idxOf x < (a :: xs).idxOf y := by
      intro seen ha
      have hne : ∀ x ∈ firstsFrom id seen [] xs, x ≠ a := by
        rintro x hx rfl
        rw [mem_firstsFrom, ha] at hx
        cases hx.2
      refine (ih seen).imp_of_mem fun hx hy hlt => ?_
      rw [hlater (hne _ hx), hlater (hne _ hy)]
      exact Nat.succ_lt_succ hlt
    have hinsert : (seen.insert a).contains a = true := (contains_insert seen a a).2 (.inl rfl)
    rw [firstsFrom]
    split
    · exact hshift seen ‹_›
    · rw [firstsFrom_eq, List.reverse_singleton, List.singleton_append, List.pairwise_cons]
      refine ⟨fun y hy => ?_, hshift _ hinsert⟩
      have hya : y ≠ a := by
        rintro rfl
        rw [id, mem_firstsFrom, hinsert] at hy
        cases hy.2
      rw [List.idxOf_cons_self, hlater hya]
      exact Nat.succ_pos _

end KeySet

namespace Group

open Solution

variable {vs : List Variable} {rows : List Solution} {g : Group} {k : List (Option Term)} {s : Solution}

/-- The members of a group are the rows with its key values. -/
theorem getD_members (vs : List Variable) (rows : List Solution) (k : List (Option Term)) :
    (members vs rows).getD (Keyed.key k) [] = rows.filter fun s => keyOf vs s = k := by
  induction rows with
  | nil => simp [members]
  | cons s rows ih =>
    rw [members, List.foldr_cons, ← members, Std.TreeMap.getD_alter, List.filter_cons]
    have hkey : compare (Keyed.key (keyOf vs s)) (Keyed.key k) = .eq ↔ keyOf vs s = k := by
      rw [Std.compare_eq_iff_eq, KeySet.key_inj]
    by_cases hk : keyOf vs s = k
    · rw [if_pos (hkey.2 hk), if_pos (by simpa using hk), Option.getD_some, ← ih, hk, Std.TreeMap.getD_eq_getD_getElem?]
    · rw [if_neg (mt hkey.1 hk), if_neg (by simpa using hk), ih]

/-- The key values of the groups. -/
def keys (vs : List Variable) (rows : List Solution) : List (List (Option Term)) :=
  if vs.isEmpty then [[]] else firsts (rows.map (keyOf vs))

/-- There is one group for each key, with the rows of this key. -/
theorem ofRows_eq (vs : List Variable) (rows : List Solution) :
    ofRows vs rows = (keys vs rows).map fun k => ⟨k, .ofList (rows.filter fun s => keyOf vs s = k)⟩ := by
  rw [ofRows]
  exact List.map_congr_left fun k _ => by rw [getD_members]

/-- No key occurs twice. -/
theorem nodup_keys (vs : List Variable) (rows : List Solution) : (keys vs rows).Nodup := by
  unfold keys
  split
  · exact List.nodup_singleton _
  · exact nodup_firsts _

/-- The key values are those of the solutions, and the empty ones if there is nothing to group by. -/
theorem mem_keys : k ∈ keys vs rows ↔ (∃ s ∈ rows, keyOf vs s = k) ∨ vs = [] ∧ k = [] := by
  unfold keys
  split
  · rename_i hvs
    obtain rfl := List.isEmpty_iff.1 hvs
    simp only [List.mem_singleton, true_and]
    refine ⟨.inr, ?_⟩
    rintro (⟨s, -, rfl⟩ | rfl)
    · rfl
    · rfl
  · rename_i hvs
    rw [mem_firsts, List.mem_map]
    refine ⟨.inl, fun h => h.resolve_right fun hnil => hvs ?_⟩
    rw [hnil.1]
    rfl

/-- The groups are those of the keys that occur. -/
theorem mem_ofRows :
    g ∈ ofRows vs rows ↔ g.key ∈ keys vs rows ∧ g.columns = .ofList (rows.filter fun s => keyOf vs s = g.key) := by
  rw [ofRows_eq, List.mem_map]
  constructor
  · rintro ⟨k, hk, rfl⟩
    exact ⟨hk, rfl⟩
  · rintro ⟨hk, hcolumns⟩
    refine ⟨g.key, hk, ?_⟩
    rw [← hcolumns]

/-- The members of a group in their order. -/
theorem rows_of_mem (hg : g ∈ ofRows vs rows) : g.columns.rows = rows.filter fun s => keyOf vs s = g.key := by
  rw [(mem_ofRows.1 hg).2, (Columns.holds_ofList _).rows]

/-- The rows of a group are those with its key. -/
theorem mem_rows_iff (hg : g ∈ ofRows vs rows) : s ∈ g.columns.rows ↔ s ∈ rows ∧ keyOf vs s = g.key := by
  rw [rows_of_mem hg, List.mem_filter, decide_eq_true_iff]

/-- Each key value stands with its variable. -/
theorem mem_zip_keyOf {v : Variable} {t : Option Term} : (v, t) ∈ vs.zip (keyOf vs s) ↔ v ∈ vs ∧ s.get? v = t := by
  rw [keyOf, ← List.map_prod_left_eq_zip, List.mem_map]
  constructor
  · rintro ⟨w, hw, heq⟩
    cases heq
    exact ⟨hw, rfl⟩
  · rintro ⟨hv, rfl⟩
    exact ⟨v, hv, rfl⟩

/-- The bindings of a group are those of its key variables in any solution with its key values. -/
theorem solution_of_keyOf (hk : keyOf vs s = g.key) : g.solution vs = s.project vs := by
  have hsolution : g.solution vs = .ofList ((vs.zip g.key).filterMap fun e => e.2.map (e.1, ·)) := rfl
  have hmem : ∀ v t, (v, t) ∈ (vs.zip g.key).filterMap (fun e => e.2.map (e.1, ·)) ↔ v ∈ vs ∧ s.get? v = some t := by
    intro v t
    rw [List.mem_filterMap, ← mem_zip_keyOf, hk]
    constructor
    · rintro ⟨⟨w, u⟩, hw, heq⟩
      obtain ⟨x, rfl, hx⟩ := Option.map_eq_some_iff.1 heq
      cases hx
      exact hw
    · exact fun hv => ⟨(v, some t), hv, rfl⟩
  refine ext_get? fun v => Option.ext fun t => ?_
  rw [hsolution, get?_ofList_eq_some_iff, hmem, get?_project]
  · by_cases hv : v ∈ vs <;> simp [hv]
  · intro v t u ht hu
    exact Option.some.inj (((hmem v t).1 ht).2.symm.trans ((hmem v u).1 hu).2)

/-- A group binds the terms among its key values. -/
theorem get?_solution_iff (hg : g ∈ ofRows vs rows) {v : Variable} {t : Term} :
    (g.solution vs).get? v = some t ↔ (v, some t) ∈ vs.zip g.key := by
  rcases mem_keys.1 (mem_ofRows.1 hg).1 with ⟨s, -, hk⟩ | ⟨rfl, hk⟩
  · rw [solution_of_keyOf hk, get?_project, ← hk, mem_zip_keyOf]
    by_cases hv : v ∈ vs <;> simp [hv]
  · have hempty : keyOf [] Solution.empty = g.key := hk.symm
    rw [solution_of_keyOf hempty]
    simp

/-- Gathering the members of all groups keeps each solution as often as it occurs. -/
theorem flatMap_filter_perm {α κ : Type} [DecidableEq κ] (f : α → κ) {ks : List κ} (hks : ks.Nodup) {xs : List α}
    (hxs : ∀ x ∈ xs, f x ∈ ks) : (ks.flatMap fun k => xs.filter fun x => f x = k).Perm xs := by
  induction ks generalizing xs with
  | nil =>
    obtain rfl := List.eq_nil_iff_forall_not_mem.2 fun x hx => List.not_mem_nil (hxs x hx)
    exact .nil
  | cons k ks ih =>
    obtain ⟨hk, hks⟩ := List.nodup_cons.1 hks
    have hothers : ∀ x ∈ xs.filter fun x => !decide (f x = k), f x ∈ ks := by
      intro x hx
      obtain ⟨hx, hne⟩ := List.mem_filter.1 hx
      exact List.mem_of_ne_of_mem (by simpa using hne) (hxs x hx)
    have hrest : (ks.flatMap fun j => xs.filter fun x => f x = j) =
        ks.flatMap fun j => (xs.filter fun x => !decide (f x = k)).filter fun x => f x = j := by
      refine List.flatMap_congr fun j hj => ?_
      rw [List.filter_filter]
      refine List.filter_congr fun x _ => ?_
      by_cases hx : f x = j
      · have hjk : j ≠ k := fun h => hk (h ▸ hj)
        simp [hx, hjk]
      · simp [hx]
    rw [List.flatMap_cons, hrest]
    exact ((ih hks hothers).append_left _).trans (List.filter_append_perm _ xs)

/-- Grouping is a partition. The groups have different key values and come in the order in which these occur for the
first time. The members of a group are the solutions with its key values, in their order, so each solution is a member
of one group, as often as it occurs. A group binds the terms among its key values, as its members do. Of no solutions
there is no group, but a single one without members if there is nothing to group by. -/
theorem ofRows_partitions (vs : List Variable) (rows : List Solution) :
    let groups := ofRows vs rows
    let keyValues := rows.map (keyOf vs)
    groups.Pairwise (fun g h => g.key ≠ h.key ∧ keyValues.idxOf g.key < keyValues.idxOf h.key) ∧
      (∀ g ∈ groups, g.columns.rows = rows.filter fun s => keyOf vs s = g.key) ∧
      (∀ s ∈ rows, ∃! g, g ∈ groups ∧ s ∈ g.columns.rows) ∧ (groups.flatMap (·.columns.rows)).Perm rows ∧
      (∀ g ∈ groups, (∀ v t, (g.solution vs).get? v = some t ↔ (v, some t) ∈ vs.zip g.key) ∧
        ∀ s ∈ g.columns.rows, g.solution vs = s.project vs) ∧
      (rows ≠ [] → ∀ g ∈ groups, g.columns.rows ≠ []) ∧
      (rows = [] → groups = if vs = [] then [⟨[], .empty⟩] else []) := by
  intro groups keyValues
  have hcovered : ∀ s ∈ rows, keyOf vs s ∈ keys vs rows := fun s hs => mem_keys.2 (.inl ⟨s, hs, rfl⟩)
  refine ⟨?_, fun g hg => rows_of_mem hg, fun s hs => ?_, ?_,
    fun g hg => ⟨fun v t => get?_solution_iff hg, fun s hs => ?_⟩, fun hrows g hg => ?_, ?_⟩
  · have horder : (keys vs rows).Pairwise fun k l => keyValues.idxOf k < keyValues.idxOf l := by
      unfold keys
      split
      · exact List.pairwise_singleton _ _
      · exact KeySet.pairwise_idxOf_firstsFrom _ _
    rw [show groups = ofRows vs rows from rfl, ofRows_eq, List.pairwise_map]
    exact (nodup_keys vs rows).and horder
  · have hown : (⟨keyOf vs s, .ofList (rows.filter fun r => keyOf vs r = keyOf vs s)⟩ : Group) ∈ groups :=
      mem_ofRows.2 ⟨hcovered s hs, rfl⟩
    refine ⟨_, ⟨hown, (mem_rows_iff hown).2 ⟨hs, rfl⟩⟩, ?_⟩
    rintro ⟨k, c⟩ ⟨hg, hmember⟩
    obtain rfl : keyOf vs s = k := ((mem_rows_iff hg).1 hmember).2
    exact congrArg (Group.mk _) (mem_ofRows.1 hg).2
  · have hmembers : groups.flatMap (·.columns.rows) =
        (keys vs rows).flatMap fun k => rows.filter fun s => keyOf vs s = k := by
      rw [show groups = ofRows vs rows from rfl, ofRows_eq, List.flatMap_map]
      exact List.flatMap_congr fun k _ => (Columns.holds_ofList _).rows
    rw [hmembers]
    exact flatMap_filter_perm _ (nodup_keys vs rows) hcovered
  · exact solution_of_keyOf ((mem_rows_iff hg).1 hs).2
  · rcases mem_keys.1 (mem_ofRows.1 hg).1 with ⟨s, hs, hk⟩ | ⟨rfl, hk⟩
    · exact List.ne_nil_of_mem ((mem_rows_iff hg).2 ⟨hs, hk⟩)
    · obtain ⟨s, hs⟩ := List.exists_mem_of_ne_nil rows hrows
      exact List.ne_nil_of_mem ((mem_rows_iff hg).2 ⟨hs, hk.symm⟩)
  · rintro rfl
    cases vs <;> rfl

/-- A solution between two others leaves the key open. It is alone in its group, which binds nothing. -/
theorem ofRows_partitions_open :
    let x : Variable := ⟨"x"⟩
    let bound : Solution := Solution.empty.insert x (.literal (.typed "1" Xsd.integer))
    let rows : List Solution := [bound, .empty, bound]
    ∃ g ∈ ofRows [x] rows, g.columns.rows = [.empty] ∧ g.solution [x] = .empty ∧
      ((ofRows [x] rows).flatMap (·.columns.rows)).Perm rows := by
  intro x bound rows
  obtain ⟨-, hmembers, hone, hperm, hbinds, -, -⟩ := ofRows_partitions [x] rows
  obtain ⟨g, ⟨hg, hmember⟩, -⟩ := hone .empty (by simp [rows])
  have hkey : keyOf [x] .empty = g.key := ((mem_rows_iff hg).1 hmember).2
  have hfilter : (rows.filter fun s => keyOf [x] s = keyOf [x] .empty) = [.empty] := by decide +kernel
  refine ⟨g, hg, ?_, ((hbinds g hg).2 .empty hmember).trans (by decide +kernel), hperm⟩
  rw [hmembers g hg, ← hkey, hfilter]

end Group

end SparqlAlgebra

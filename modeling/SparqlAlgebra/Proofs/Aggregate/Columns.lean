import Mathlib.Algebra.Order.Ring.Int
import Mathlib.Data.Finset.Card
import Mathlib.Data.List.Nodup
import SparqlAlgebra.Aggregate.Evaluate
import SparqlAlgebra.Proofs.Solution.Merge
import SparqlAlgebra.Proofs.Value.IntegerText

/-!
# Columns hold the solutions of a group

Each variable that a solution of the group binds has a column, and the column has what each of the solutions binds the
variable to. This holds at first, a solution that is appended keeps it, and everything that is read off the columns
follows from it. So nothing is lost: an aggregate may read the column of a variable instead of evaluating the variable
for each solution, and different solutions can be counted by their entries.
-/

namespace SparqlAlgebra

open Solution

namespace Columns

variable {c : Columns} {ss : List Solution} {s : Solution} {v : Variable}

/-- The columns hold a list of solutions. -/
structure Holds (c : Columns) (ss : List Solution) : Prop where
  /-- The columns count the solutions. -/
  size : c.size = ss.length
  /-- No variable has two columns. -/
  nodup : c.vars.Nodup
  /-- Each column lists what the solutions bind to its variable. -/
  column : ∀ e ∈ c.entries, e.2.toList = ss.map (·.get? e.1)
  /-- Every bound variable has a column. -/
  bound : ∀ s ∈ ss, ∀ v, s.binds v = true → v ∈ c.vars

/-- No columns hold no solutions. -/
theorem holds_empty : empty.Holds [] := ⟨rfl, .nil, nofun, nofun⟩

/-- Columns are added at the end, with no term in the rows so far. -/
theorem addVariables_eq (c : Columns) (vs : List Variable) :
    c.addVariables vs = { c with entries := c.entries ++
      (vs.filter fun v => !c.vars.contains v).map fun v => (v, Array.replicate c.size none) } := by
  unfold addVariables
  split
  · rename_i hn
    rw [hn, List.map_nil, List.append_nil]
  · rfl

/-- Columns are added for the variables that have none yet. -/
theorem vars_addVariables (c : Columns) (vs : List Variable) :
    (c.addVariables vs).vars = c.vars ++ vs.filter fun v => !c.vars.contains v := by
  rw [addVariables_eq, vars, List.map_append, List.map_map]
  exact congrArg _ (List.map_id _)

/-- Once variables have been added, there is a column for each of them. -/
theorem mem_vars_addVariables {vs : List Variable} : v ∈ (c.addVariables vs).vars ↔ v ∈ c.vars ∨ v ∈ vs := by
  rw [vars_addVariables, List.mem_append, List.mem_filter]
  by_cases hv : v ∈ c.vars <;> simp [hv]

/-- A solution has entries for the variables that it binds. -/
theorem mem_entries_iff_binds : v ∈ s.entries.map (·.1) ↔ s.binds v = true := by
  rw [List.mem_map, binds_iff]
  constructor
  · rintro ⟨e, he, rfl⟩
    exact ⟨e.2, get?_eq_some_iff.2 he⟩
  · rintro ⟨t, ht⟩
    exact ⟨(v, t), get?_eq_some_iff.1 ht, rfl⟩

/-- Pushing a solution adds columns for its variables. -/
theorem vars_push (c : Columns) (s : Solution) : (c.push s).vars = (c.addVariables (s.entries.map (·.1))).vars := by
  rw [push, vars, vars, List.map_map]
  rfl

/-- Once a solution has been pushed, there are columns for the variables that it binds. -/
theorem mem_vars_push : v ∈ (c.push s).vars ↔ v ∈ c.vars ∨ s.binds v = true := by
  rw [vars_push, mem_vars_addVariables, mem_entries_iff_binds]

/-- No solution binds a variable without a column. -/
theorem Holds.get?_of_not_mem (h : c.Holds ss) (hv : v ∉ c.vars) (hs : s ∈ ss) : s.get? v = none := by
  cases hget : s.get? v with
  | none => rfl
  | some t => exact absurd (h.bound s hs v (binds_iff.2 ⟨t, hget⟩)) hv

/-- A variable without a column is open in all solutions. -/
theorem Holds.map_get?_of_not_mem (h : c.Holds ss) (hv : v ∉ c.vars) :
    ss.map (·.get? v) = (Array.replicate c.size none).toList := by
  have hnone : ss.map (·.get? v) = ss.map fun _ => none := List.map_congr_left fun s hs => h.get?_of_not_mem hv hs
  rw [hnone, List.map_const', Array.toList_replicate, h.size]

/-- A new column is empty, as no solution so far binds its variable. -/
theorem Holds.addVariables (h : c.Holds ss) {vs : List Variable} (hvs : vs.Nodup) : (c.addVariables vs).Holds ss where
  size := by
    rw [addVariables_eq]
    exact h.size
  nodup := by
    rw [vars_addVariables]
    refine h.nodup.append (hvs.filter _) fun v hv hnew => ?_
    simp [hv] at hnew
  column := by
    intro e he
    rw [addVariables_eq, List.mem_append, List.mem_map] at he
    rcases he with he | ⟨v, hv, rfl⟩
    · exact h.column e he
    · have hnew : v ∉ c.vars := by simpa using (List.mem_filter.1 hv).2
      exact (h.map_get?_of_not_mem hnew).symm
  bound s hs v hv := mem_vars_addVariables.2 (.inl (h.bound s hs v hv))

/-- Appending a solution. -/
theorem Holds.push (h : c.Holds ss) (s : Solution) : (c.push s).Holds (ss ++ [s]) := by
  have hvs : (s.entries.map (·.1)).Nodup := by
    refine List.pairwise_map.2 (s.ascending.imp fun hlt heq => ?_)
    rw [heq] at hlt
    exact String.lt_irrefl _ hlt
  have hadd := h.addVariables hvs
  refine ⟨?_, ?_, ?_, ?_⟩
  · rw [List.length_append, List.length_singleton, ← hadd.size]
    rfl
  · rw [vars_push]
    exact hadd.nodup
  · intro e he
    obtain ⟨x, hx, rfl⟩ := List.mem_map.1 he
    rw [Array.toList_push, hadd.column x hx, List.map_append, List.map_singleton]
  · intro t ht v hv
    rw [mem_vars_push]
    rcases List.mem_append.1 ht with ht | ht
    · exact .inl (h.bound t ht v hv)
    · obtain rfl := List.mem_singleton.1 ht
      exact .inr hv

/-- The columns of a list of solutions hold these. -/
theorem holds_ofList (ss : List Solution) : (ofList ss).Holds ss := by
  have hfold : ∀ (ts : List Solution) {c : Columns} {ss : List Solution}, c.Holds ss →
      (ts.foldl Columns.push c).Holds (ss ++ ts) := by
    intro ts
    induction ts with
    | nil =>
      intro c ss h
      rwa [List.append_nil]
    | cons t ts ih =>
      intro c ss h
      have hrest := ih (h.push t)
      rwa [List.append_assoc] at hrest
  exact hfold ss holds_empty

/-- There is a column for every variable that has one. -/
theorem exists_column_iff : (∃ xs, c.column? v = some xs) ↔ v ∈ c.vars := by
  rw [column?, ← Option.isSome_iff_exists, vars]
  simp [List.lookup_isSome_iff]

/-- The terms of a column are those of its variable in the solutions. -/
theorem Holds.column? (h : c.Holds ss) {xs : Array (Option Term)} (hxs : c.column? v = some xs) :
    xs.toList = ss.map (·.get? v) := by
  obtain ⟨as, bs, he, -⟩ := List.lookup_eq_some_iff.1 hxs
  exact h.column (v, xs) (by simp [he])

/-- A column is what the solutions bind its variable to, also if there is none. -/
theorem Holds.columnOf (h : c.Holds ss) (v : Variable) : ReadyAggregate.columnOf c v = ss.map (·.get? v) := by
  rw [ReadyAggregate.columnOf]
  cases hcolumn : c.column? v with
  | some xs => exact h.column? hcolumn
  | none =>
    refine (h.map_get?_of_not_mem fun hv => ?_).symm
    obtain ⟨xs, hxs⟩ := exists_column_iff.2 hv
    rw [hcolumn] at hxs
    cases hxs

/-- The place of a row in a column has what that row binds to the variable of the column. -/
theorem Holds.getElem? (h : c.Holds ss) {e : Variable × Array (Option Term)} (he : e ∈ c.entries) (i : Nat) :
    e.2[i]?.getD none = ss[i]?.bind (·.get? e.1) := by
  rw [← Array.getElem?_toList, h.column e he, List.getElem?_map]
  cases ss[i]? <;> rfl

/-- The bindings at a position. -/
def bindingsAt (c : Columns) (i : Nat) : List (Variable × Term) :=
  c.entries.filterMap fun e => (e.2[i]?.getD none).map (e.1, ·)

/-- A row is made of the bindings at its place. -/
theorem row_eq (c : Columns) (i : Nat) : c.row i = Solution.ofList (c.bindingsAt i) := rfl

/-- The bindings at a place are those of the solution there. -/
theorem Holds.mem_bindingsAt (h : c.Holds ss) {i : Nat} {t : Term} :
    (v, t) ∈ c.bindingsAt i ↔ v ∈ c.vars ∧ ss[i]?.bind (·.get? v) = some t := by
  rw [bindingsAt, List.mem_filterMap, vars, List.mem_map]
  constructor
  · rintro ⟨e, he, hx⟩
    obtain ⟨u, hu, heq⟩ := Option.map_eq_some_iff.1 hx
    rw [h.getElem? he] at hu
    cases heq
    exact ⟨⟨e, he, rfl⟩, hu⟩
  · rintro ⟨⟨e, he, rfl⟩, ht⟩
    refine ⟨e, he, Option.map_eq_some_iff.2 ⟨t, ?_, rfl⟩⟩
    rw [h.getElem? he, ht]

/-- The solution at a position is the one that has been appended there. -/
theorem Holds.row (h : c.Holds ss) (i : Nat) : c.row i = ss[i]?.getD .empty := by
  have hget : ∀ v, (ss[i]?.getD .empty).get? v = ss[i]?.bind (·.get? v) := by
    intro v
    cases ss[i]? <;> rfl
  refine ext_get? fun v => ?_
  rw [row_eq, Solution.ofList, get?_foldl_insert, get?_empty, Option.or_none, hget]
  cases hl : (c.bindingsAt i).reverse.lookup v with
  | some t =>
    obtain ⟨as, bs, he, -⟩ := List.lookup_eq_some_iff.1 hl
    have ht : (v, t) ∈ (c.bindingsAt i).reverse := by
      rw [he]
      simp
    exact (h.mem_bindingsAt.1 (List.mem_reverse.1 ht)).2.symm
  | none =>
    cases ht : ss[i]?.bind (·.get? v) with
    | none => rfl
    | some t =>
      obtain ⟨s, hs, hst⟩ := Option.bind_eq_some_iff.1 ht
      have hv : v ∈ c.vars := h.bound s (List.mem_of_getElem? hs) v (binds_iff.2 ⟨t, hst⟩)
      have hne := List.lookup_eq_none_iff.1 hl (v, t) (List.mem_reverse.2 (h.mem_bindingsAt.2 ⟨hv, ht⟩))
      simp at hne

/-- The solutions are given back in their order. -/
theorem Holds.rows (h : c.Holds ss) : c.rows = ss := by
  have hlen : c.rows.length = ss.length := by rw [Columns.rows, List.length_map, List.length_range, h.size]
  refine List.ext_getElem hlen fun i _ hi => ?_
  simp only [Columns.rows, List.getElem_map, List.getElem_range]
  rw [h.row, List.getElem?_eq_getElem hi, Option.getD_some]

/-- The entries at a position. -/
theorem Holds.entriesAt (h : c.Holds ss) (i : Nat) : c.entriesAt i = c.vars.map fun v => ss[i]?.bind (·.get? v) := by
  rw [Columns.entriesAt, vars, List.map_map]
  exact List.map_congr_left fun e he => h.getElem? he i

/-- There are as many first occurrences as different items. -/
theorem length_firsts {κ : Type} [Keyed κ] [DecidableEq κ] (xs : List κ) : (firsts xs).length = xs.toFinset.card := by
  have hset : (firsts xs).toFinset = xs.toFinset := by
    ext x
    simp
  rw [← hset, List.toFinset_card_of_nodup (nodup_firsts xs)]

/-- The number of different solutions. -/
theorem Holds.distinctRows (h : c.Holds ss) : ReadyAggregate.distinctRows c = ss.toFinset.card := by
  have hentries : (List.range c.size).map c.entriesAt = ss.map fun s => c.vars.map s.get? := by
    have hlen : ((List.range c.size).map c.entriesAt).length = (ss.map fun s => c.vars.map s.get?).length := by
      simp [h.size]
    refine List.ext_getElem hlen fun i _ hi => ?_
    have hi : i < ss.length := by simpa using hi
    simp only [List.getElem_map, List.getElem_range]
    rw [h.entriesAt, List.getElem?_eq_getElem hi]
    rfl
  have hinj : ∀ s ∈ ss, ∀ t ∈ ss, c.vars.map s.get? = c.vars.map t.get? → s = t := by
    intro s hs t ht hst
    refine ext_get? fun v => ?_
    by_cases hv : v ∈ c.vars
    · exact List.map_inj_left.1 hst v hv
    · rw [h.get?_of_not_mem hv hs, h.get?_of_not_mem hv ht]
  have himage : (ss.map fun s => c.vars.map s.get?).toFinset = ss.toFinset.image fun s => c.vars.map s.get? := by
    ext x
    simp
  rw [ReadyAggregate.distinctRows, hentries, length_firsts, himage]
  refine Finset.card_image_of_injOn fun s hs t ht hst => hinj s ?_ t ?_ hst
  · simpa using hs
  · simpa using ht

/-- The columns are those of the variables that some solution binds. -/
theorem mem_vars_ofList : v ∈ (ofList ss).vars ↔ ∃ s ∈ ss, s.binds v = true := by
  have hfold : ∀ (ss : List Solution) (c : Columns),
      v ∈ (ss.foldl Columns.push c).vars ↔ v ∈ c.vars ∨ ∃ s ∈ ss, s.binds v = true := by
    intro ss
    induction ss with
    | nil => simp
    | cons s ss ih =>
      intro c
      rw [List.foldl_cons, ih, mem_vars_push, List.exists_mem_cons_iff, or_assoc]
  have hempty : v ∉ empty.vars := List.not_mem_nil
  rw [ofList, hfold, or_iff_right hempty]

/-- Evaluating a variable for each solution gives what its column has. -/
theorem Holds.rowValues (h : c.Holds ss) (v : Variable) (seed : Nat) :
    ReadyAggregate.rowValues (.var v) seed c = ss.map (·.get? v) := by
  rw [ReadyAggregate.rowValues, h.rows]
  conv_rhs => rw [← List.zipIdx_map_fst 0 ss, List.map_map]
  refine List.map_congr_left fun x _ => ?_
  dsimp only [Function.comp_apply]
  rw [Compiled.term?]

end Columns

/-- Only a custom set function has nothing to start from. -/
theorem SetFunction.custom_or_start (f : SetFunction) :
    (∃ name, f = .custom name) ∨ ∃ start, f.start? = some start := by
  cases f with
  | custom name => exact .inl ⟨name, rfl⟩
  | count | sum | avg | min | max | sample | groupConcat => exact .inr ⟨_, rfl⟩

/-- An aggregate that is not custom is compiled with its expression. -/
theorem Aggregate.ready_apply {f : SetFunction} {start : Accumulator} (hstart : f.start? = some start) (distinct : Bool)
    (e : Expression) (c : Expression.Compiler) :
    (Aggregate.apply f distinct e).ready c = (e.ready c).map (.apply start distinct) := by
  cases f with
  | custom name => cases hstart
  | count | sum | avg | min | max | sample | groupConcat =>
    cases hstart
    rw [Aggregate.ready]
    · cases e.ready c <;> rfl
    · exact nofun

/-- An aggregate over a variable is compiled to one that reads its column. -/
theorem Aggregate.ready_var {f : SetFunction} {start : Accumulator} (hstart : f.start? = some start) (distinct : Bool)
    (v : Variable) (c : Expression.Compiler) :
    (Aggregate.apply f distinct (.var v)).ready c = .ok (.apply start distinct ⟨.var v, 0, 0⟩) := by
  rw [ready_apply hstart]
  rfl

namespace ReadyAggregate

/-- An aggregate over a variable takes what the solutions of the group bind it to. -/
theorem evaluate_var (start : Accumulator) (distinct : Bool) (v : Variable) (seed : Nat) (rows : List Solution) :
    (ReadyAggregate.apply start distinct ⟨.var v, 0, 0⟩).evaluate seed (.ofList rows) =
      start.ofList (if distinct then Accumulator.keepDistinct (rows.map (·.get? v)) else rows.map (·.get? v)) := by
  have hvalues : values (.var v) seed (.ofList rows) = rows.map (·.get? v) := (Columns.holds_ofList rows).columnOf v
  rw [evaluate, hvalues]

end ReadyAggregate

/-- A count is an integer literal if it fits. -/
theorem Accumulator.countTerm?_eq (n : Nat) :
    countTerm? n = if n < 2 ^ 63 then some (.literal (.ofInt n)) else none := by
  have hfits : fitsInt64 n = true ↔ n < 2 ^ 63 := by
    rw [fitsInt64_iff]
    omega
  simp only [countTerm?, hfits]

namespace Columns

/-- Solutions that are appended one by one to no columns are all there. There is a column for each variable that some of
them binds and for no other, it has an entry for each of them, and they are given back at their positions, beyond which
there is nothing. So a set function over a variable, unless it is custom and thus refused, comes to the same from the
column of the variable, which may be missing, as from its values for each solution, and the number of different
solutions is found by their entries. -/
theorem ofList_lossless (ss : List Solution) :
    let c := Columns.ofList ss
    c.size = ss.length ∧ c.vars.Nodup ∧ (∀ e ∈ c.entries, e.2.size = c.size) ∧
      (∀ v, (∃ xs, c.column? v = some xs) ↔ ∃ s ∈ ss, s.binds v = true) ∧
      (∀ v xs, c.column? v = some xs → xs.toList = ss.map (·.get? v)) ∧
      (∀ i s, ss[i]? = some s → c.row i = s) ∧ (∀ i, c.size ≤ i → c.row i = .empty) ∧
      (∀ f distinct v compiler,
        (∃ name, f = .custom name ∧
          (Aggregate.apply f distinct (.var v)).ready compiler = .error (.unknownAggregate name)) ∨
        ∃ start r, f.start? = some start ∧ (Aggregate.apply f distinct (.var v)).ready compiler = .ok r ∧ ∀ seed,
          let byRow := ReadyAggregate.rowValues (.var v) seed c
          r.evaluate seed c = start.ofList (if distinct then Accumulator.keepDistinct byRow else byRow)) ∧
      ∀ compiler, ∃ r, (Aggregate.countRows true).ready compiler = .ok r ∧ ∀ seed,
        r.evaluate seed c =
          if ss.toFinset.card < 2 ^ 63 then some (some (.literal (.ofInt ss.toFinset.card))) else none := by
  intro c
  have hholds : c.Holds ss := holds_ofList ss
  refine ⟨hholds.size, hholds.nodup, fun e he => ?_, fun v => ?_, fun v xs hxs => hholds.column? hxs, fun i s hs => ?_,
    fun i hi => ?_, fun f distinct v compiler => ?_, fun compiler => ⟨_, rfl, fun seed => ?_⟩⟩
  · rw [← Array.length_toList, hholds.column e he, List.length_map, hholds.size]
  · rw [exists_column_iff, mem_vars_ofList]
  · rw [hholds.row, hs, Option.getD_some]
  · rw [hholds.row, List.getElem?_eq_none (hholds.size ▸ hi), Option.getD_none]
  · refine (SetFunction.custom_or_start f).imp ?_ ?_
    · rintro ⟨name, rfl⟩
      exact ⟨name, rfl, rfl⟩
    rintro ⟨start, hstart⟩
    refine ⟨start, _, hstart, Aggregate.ready_var hstart distinct v compiler, fun seed => ?_⟩
    intro byRow
    have hrow : byRow = ss.map (·.get? v) := hholds.rowValues v seed
    rw [hrow]
    exact ReadyAggregate.evaluate_var start distinct v seed ss
  · rw [ReadyAggregate.evaluate, hholds.distinctRows, Accumulator.countTerm?_eq]
    split <;> rfl

/-- A variable that the second solution is the first to bind. Its column starts with an open place. -/
theorem ofList_lossless_second :
    let x : Variable := ⟨"x"⟩
    let y : Variable := ⟨"y"⟩
    let one : Term := .literal (.typed "1" Xsd.integer)
    let ss : List Solution := [Solution.empty.insert x one, Solution.empty.insert y one]
    let compiler : Expression.Compiler := ⟨[], .iri ⟨"http://example.com/p"⟩⟩
    (∃ xs, (ofList ss).column? y = some xs ∧ xs.toList = [none, some one]) ∧
      (ofList ss).row 1 = Solution.empty.insert y one ∧ (ofList ss).row 2 = .empty ∧
      ∃ r, (Aggregate.apply .count false (.var y)).ready compiler = .ok r ∧
        r.evaluate 0 (ofList ss) =
          (Accumulator.count 0).ofList (ReadyAggregate.rowValues (.var y) 0 (ofList ss)) := by
  intro x y one ss compiler
  obtain ⟨hsize, -, -, hcolumn, hentries, hrow, hbeyond, haggregate, -⟩ := ofList_lossless ss
  obtain ⟨xs, hxs⟩ := (hcolumn y).2 ⟨Solution.empty.insert y one, by simp [ss], by decide +kernel⟩
  have hget : ss.map (·.get? y) = [none, some one] := by decide +kernel
  obtain ⟨name, hname, -⟩ | ⟨start, r, hstart, hr, hvalue⟩ := haggregate .count false y compiler
  · cases hname
  obtain rfl : Accumulator.count 0 = start := Option.some.inj hstart
  refine ⟨⟨xs, hxs, (hentries y xs hxs).trans hget⟩, hrow 1 _ rfl, hbeyond 2 (by rw [hsize]; decide), r, hr, ?_⟩
  rw [hvalue, if_neg Bool.false_ne_true]

end Columns

end SparqlAlgebra

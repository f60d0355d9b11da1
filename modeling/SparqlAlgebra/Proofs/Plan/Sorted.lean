import SparqlAlgebra.Proofs.Plan.Collected
import SparqlAlgebra.Proofs.Value.Order

/-!
# Sorted solutions

Solutions are sorted by a list of keys, each of them ascending or descending: the first key that tells two solutions
apart decides. That is a total preorder on all solutions, whatever their values are and where there are none, so the
result is sorted. Solutions that no key tells apart stay in the order in which they come.
-/

namespace SparqlAlgebra

/-! ## Stable sorts -/

section Comparison

variable {α : Type} {cmp : α → α → Ordering}

/-- What does not come after comes before or at the same place. -/
theorem ne_gt_iff_isLE (o : Ordering) : (o != .gt) = true ↔ o.isLE = true := by
  cases o <;> decide

/-- What may precede may precede by way of a third one. -/
theorem ne_gt_trans [Std.TransCmp cmp] (a b c : α) (hab : (cmp a b != .gt) = true) (hbc : (cmp b c != .gt) = true) :
    (cmp a c != .gt) = true := by
  rw [ne_gt_iff_isLE] at *
  exact Std.TransCmp.isLE_trans hab hbc

/-- Of two values one may precede the other. -/
theorem ne_gt_total [Std.OrientedCmp cmp] (a b : α) : (cmp a b != .gt || cmp b a != .gt) = true := by
  have hswap : cmp b a = (cmp a b).swap := Std.OrientedCmp.eq_swap
  rw [hswap]
  cases cmp a b <;> rfl

end Comparison

section StableSort

variable {α : Type} {le le₁ le₂ : α → α → Bool}

/-- A list is sorted by moving its places: one that is put before another holds a lesser value, or an equal one that
was before the other already. -/
theorem exists_placed (htrans : ∀ a b c, le a b = true → le b c = true → le a c = true)
    (htotal : ∀ a b, (le a b || le b a) = true) (xs : List α) :
    ∃ placed : List (α × Nat), placed.Perm xs.zipIdx ∧ placed.map Prod.fst = xs.mergeSort le ∧
      placed.Pairwise fun a b => le a.1 b.1 = true ∧ (le b.1 a.1 = true → a.2 < b.2) := by
  have hperm : (xs.zipIdx.mergeSort (List.zipIdxLE le)).Perm xs.zipIdx := List.mergeSort_perm _ _
  have hplaces : ((xs.zipIdx.mergeSort (List.zipIdxLE le)).map Prod.snd).Nodup := by
    rw [(hperm.map Prod.snd).nodup_iff, List.zipIdx_map_snd]
    exact List.nodup_range'
  have hsorted := List.pairwise_mergeSort (List.zipIdxLE_trans htrans) (List.zipIdxLE_total htotal) xs.zipIdx
  refine ⟨_, hperm, List.mergeSort_zipIdx, (hsorted.and (List.pairwise_map.1 hplaces)).imp ?_⟩
  rintro ⟨a, i⟩ ⟨b, j⟩ ⟨hle, hne⟩
  unfold List.zipIdxLE at hle
  split at hle
  · rename_i hab
    refine ⟨hab, fun hba => ?_⟩
    rw [if_pos hba, decide_eq_true_iff] at hle
    exact lt_of_le_of_ne hle hne
  · cases hle

/-- An earlier place goes before a later one unless its value is greater. -/
theorem zipIdxLE_of_lt {a b : α} {i j : Nat} (h : i < j) : List.zipIdxLE le (a, i) (b, j) = le a b := by
  simp [List.zipIdxLE, h.le]

/-- A later place goes before an earlier one only if its value is less. -/
theorem zipIdxLE_of_gt (htotal : ∀ a b, (le a b || le b a) = true) {a b : α} {i j : Nat} (h : j < i) :
    List.zipIdxLE le (a, i) (b, j) = !le b a := by
  have hab := htotal a b
  simp only [List.zipIdxLE, h.not_ge, decide_false]
  cases hba : le b a with
  | true => simp
  | false => simpa [hba] using hab

/-- A list is sorted alike by two orders just if they agree on each two of its values, taken as they come. -/
theorem mergeSort_eq_iff_pairwise (htrans₁ : ∀ a b c, le₁ a b = true → le₁ b c = true → le₁ a c = true)
    (htotal₁ : ∀ a b, (le₁ a b || le₁ b a) = true)
    (htrans₂ : ∀ a b c, le₂ a b = true → le₂ b c = true → le₂ a c = true)
    (htotal₂ : ∀ a b, (le₂ a b || le₂ b a) = true) {xs : List α} :
    xs.mergeSort le₁ = xs.mergeSort le₂ ↔ xs.Pairwise fun a b => le₁ a b = le₂ a b := by
  constructor
  · intro hsame
    have hsorted₁ := List.pairwise_mergeSort htrans₁ htotal₁ xs
    have hsorted₂ := List.pairwise_mergeSort htrans₂ htotal₂ xs
    rw [← hsame] at hsorted₂
    refine List.pairwise_iff_forall_sublist.2 fun {a b} hab => Bool.eq_iff_iff.2 ⟨fun h => ?_, fun h => ?_⟩
    · exact List.pairwise_iff_forall_sublist.1 hsorted₂ (List.pair_sublist_mergeSort htrans₁ htotal₁ h hab)
    · have hplaced := List.pair_sublist_mergeSort htrans₂ htotal₂ h hab
      rw [← hsame] at hplaced
      exact List.pairwise_iff_forall_sublist.1 hsorted₁ hplaced
  · intro hagree
    have hpairs := List.pairwise_iff_getElem.1 hagree
    have hplaces : ∀ a ∈ xs.zipIdx, ∀ b ∈ xs.zipIdx, List.zipIdxLE le₁ a b = List.zipIdxLE le₂ a b := by
      rintro ⟨a, i⟩ ha ⟨b, j⟩ hb
      obtain ⟨hi, ha⟩ := List.getElem?_eq_some_iff.1 (List.mem_zipIdx_iff_getElem?.1 ha)
      obtain ⟨hj, hb⟩ := List.getElem?_eq_some_iff.1 (List.mem_zipIdx_iff_getElem?.1 hb)
      dsimp only at hi hj ha hb
      subst ha hb
      obtain h | rfl | h := lt_trichotomy i j
      · rw [zipIdxLE_of_lt h, zipIdxLE_of_lt h, hpairs i j hi hj h]
      · have hself₁ := List.zipIdxLE_total htotal₁ (xs[i], i) (xs[i], i)
        have hself₂ := List.zipIdxLE_total htotal₂ (xs[i], i) (xs[i], i)
        rw [Bool.or_self] at hself₁ hself₂
        rw [hself₁, hself₂]
      · rw [zipIdxLE_of_gt htotal₁ h, zipIdxLE_of_gt htotal₂ h, hpairs j i hj hi h]
    have hzip := List.map_mergeSort (f := id) hplaces
    rw [List.map_id, List.map_id] at hzip
    rw [← List.mergeSort_zipIdx, hzip, List.mergeSort_zipIdx]

end StableSort

namespace SortKey

/-- Whether greater values come first. -/
def isDescending : SortKey → Bool
  | .ascending _ => false
  | .descending _ => true

/-- The key with its expression compiled. -/
def ready (c : Expression.Compiler) (k : SortKey) : Except QueryError Plan.ReadyKey := do
  return (← k.expression.ready c, k.isDescending)

end SortKey

namespace Plan

/-- Compiling sort keys leaves the store alone. -/
theorem mapM_compileKey (c : Scope) (keys : List SortKey) :
    keys.mapM (compileKey c) = ofExcept (keys.mapM (SortKey.ready c.compiler)) := by
  have hkey : ∀ k : SortKey, compileKey c k = ofExcept (k.ready c.compiler) := by
    intro k
    cases k with
    | ascending e | descending e =>
      rw [compileKey, compile_eq, SortKey.ready, SortKey.expression]
      cases e.ready c.compiler <;> rfl
  induction keys with
  | nil => rfl
  | cons k ks ih =>
    rw [List.mapM_cons, List.mapM_cons, ih, hkey]
    cases k.ready c.compiler with
    | error e => rfl
    | ok r => cases ks.mapM (SortKey.ready c.compiler) <;> rfl

/-! ## The order of solutions -/

/-- The value of a sort key for a solution. If the expression fails there is none. -/
def keyValue (k : ReadyKey) (s : Solution) : Option Term := k.1.root.term? ⟨s, [], 0⟩

/-- How two values are ordered, of which the greater one comes first in descending order. -/
def compareValues (descending : Bool) (a b : Option Term) : Ordering :=
  if descending then Term.orderOptional b a else Term.orderOptional a b

/-- How a single key orders two solutions. -/
def compareBy (k : ReadyKey) (r s : Solution) : Ordering := compareValues k.2 (keyValue k r) (keyValue k s)

/-- How the keys together order two solutions. -/
def compareRows (keys : List ReadyKey) (r s : Solution) : Ordering :=
  compareKeys keys (keyValues keys ⟨r, [], 0⟩) (keyValues keys ⟨s, [], 0⟩)

/-- Whether the first key that tells two solutions apart puts the first of them before the second. -/
def Precedes (keys : List ReadyKey) (r s : Solution) : Prop :=
  ∃ before k after, keys = before ++ k :: after ∧ (∀ j ∈ before, compareBy j r s = .eq) ∧ compareBy k r s = .lt

/-- Whether no key tells two solutions apart. -/
def Ties (keys : List ReadyKey) (r s : Solution) : Prop := ∀ k ∈ keys, compareBy k r s = .eq

/-- The order of values is transitive, in both directions. -/
instance (descending : Bool) : Std.TransCmp (compareValues descending) := by
  have hplaces : Term.orderOptional = compareOn Term.optionalPlace := by
    funext a b
    exact Term.orderOptional_eq a b
  have hascending : Std.TransCmp Term.orderOptional := by
    rw [hplaces]
    infer_instance
  cases descending with
  | false => exact hascending
  | true => exact hascending.opposite

/-- The order by a key is transitive, in both directions. -/
instance (k : ReadyKey) : Std.TransCmp (compareBy k) where
  eq_swap := by
    intro r s
    rw [compareBy, compareBy]
    exact Std.OrientedCmp.eq_swap
  isLE_trans := by
    intro r s t hrs hst
    rw [compareBy] at *
    exact Std.TransCmp.isLE_trans hrs hst

/-- Without keys all rows are tied. -/
theorem compareRows_nil (r s : Solution) : compareRows [] r s = .eq := rfl

/-- The first key decides, and the others where it ties. -/
theorem compareRows_cons (k : ReadyKey) (ks : List ReadyKey) :
    compareRows (k :: ks) = compareLex (compareBy k) (compareRows ks) := by
  funext r s
  have hswap : (Term.orderOptional (keyValue k r) (keyValue k s)).swap =
      Term.orderOptional (keyValue k s) (keyValue k r) := by
    rw [Term.orderOptional_eq, Term.orderOptional_eq]
    exact Std.OrientedOrd.eq_swap.symm
  rw [compareRows, keyValues, keyValues, List.map_cons, List.map_cons, compareKeys, compareLex, compareBy,
    compareValues, ← hswap]
  rfl

/-- The order by several keys is transitive. -/
instance (keys : List ReadyKey) : Std.TransCmp (compareRows keys) := by
  induction keys with
  | nil => exact { eq_swap := rfl, isLE_trans := fun _ _ => rfl }
  | cons k ks ih =>
    rw [compareRows_cons]
    infer_instance

/-- Rows that come out equal are tied. -/
theorem compareRows_eq_eq {keys : List ReadyKey} {r s : Solution} : compareRows keys r s = .eq ↔ Ties keys r s := by
  induction keys with
  | nil => simp [Ties, compareRows, compareKeys]
  | cons k ks ih => rw [compareRows_cons, compareLex, Ordering.then_eq_eq, ih, Ties, Ties, List.forall_mem_cons]

/-- Rows that come out less precede. -/
theorem compareRows_eq_lt {keys : List ReadyKey} {r s : Solution} :
    compareRows keys r s = .lt ↔ Precedes keys r s := by
  induction keys with
  | nil => simp [Precedes, compareRows, compareKeys]
  | cons k ks ih =>
    rw [compareRows_cons, compareLex, Ordering.then_eq_lt, ih]
    constructor
    · rintro (hk | ⟨hk, before, j, after, rfl, hbefore, hj⟩)
      · exact ⟨[], k, ks, rfl, nofun, hk⟩
      · exact ⟨k :: before, j, after, rfl, List.forall_mem_cons.2 ⟨hk, hbefore⟩, hj⟩
    · rintro ⟨_ | ⟨i, before⟩, j, after, hkeys, hbefore, hj⟩
      · obtain ⟨rfl, rfl⟩ := List.cons.inj hkeys
        exact .inl hj
      · obtain ⟨rfl, rfl⟩ := List.cons.inj hkeys
        obtain ⟨hk, hbefore⟩ := List.forall_mem_cons.1 hbefore
        exact .inr ⟨hk, before, j, after, rfl, hbefore, hj⟩

/-- Whether the keys allow a solution to come before another one. -/
def mayPrecede (keys : List ReadyKey) (r s : Solution) : Bool := compareRows keys r s != .gt

/-- A row that may precede another one may precede all that this one may. -/
theorem mayPrecede_trans (keys : List ReadyKey) (r s t : Solution) (hrs : mayPrecede keys r s = true)
    (hst : mayPrecede keys s t = true) : mayPrecede keys r t = true := ne_gt_trans r s t hrs hst

/-- Of two rows one may precede the other. -/
theorem mayPrecede_total (keys : List ReadyKey) (r s : Solution) :
    (mayPrecede keys r s || mayPrecede keys s r) = true := ne_gt_total r s

/-- Sorting solutions together with their key values is sorting them. -/
theorem sortRows_map (keys : List ReadyKey) (rows : List Solution) :
    sortRows keys (rows.map fun s => (s, keyValues keys ⟨s, [], 0⟩)) = rows.mergeSort (mayPrecede keys) := by
  have hmap := List.map_mergeSort (r := mayPrecede keys) (s := fun a b => compareKeys keys a.2 b.2 != .gt)
    (f := fun s : Solution => (s, keyValues keys ⟨s, [], 0⟩)) (l := rows) fun _ _ _ _ => rfl
  rw [sortRows, ← hmap, List.map_map]
  exact List.map_id _

/-! ## The plan of sorting -/

variable {c : Scope} {keys : List SortKey} {ready : List ReadyKey}

/-- Steady keys draw no values. -/
theorem draws_of_ready (hkeys : ∀ k ∈ keys, k.isSteady = true)
    (hready : keys.mapM (SortKey.ready c.compiler) = .ok ready) : ready.foldl (fun n k => n + k.1.draws) 0 = 0 := by
  induction keys generalizing ready with
  | nil =>
    cases hready
    rfl
  | cons k ks ih =>
    rw [List.mapM_cons] at hready
    obtain ⟨r, hk, hrest⟩ := exists_of_bind_eq_ok hready
    obtain ⟨rs, hks, hcons⟩ := exists_of_bind_eq_ok hrest
    obtain ⟨x, hx, hr⟩ := exists_of_bind_eq_ok hk
    cases hcons
    cases hr
    have hsteady := k.isSteady_expression.trans (hkeys k List.mem_cons_self)
    rw [List.foldl_cons, (Expression.ready_steady hsteady hx).1]
    exact ih (fun j hj => hkeys j (List.mem_cons_of_mem k hj)) hks

/-- Sorting by keys that cannot be compiled is refused once the plan before it is built. -/
theorem orderBy_of_not_ready {x : QueryError} (hx : keys.mapM (SortKey.ready c.compiler) = .error x) (inner : Plan)
    (source : Flow Solution) : orderBy keys inner c source = inner c source >>= fun _ => throw x := by
  rw [orderBy, mapM_compileKey, hx]
  rfl

/-- What is delivered in order is what is found, sorted by the keys. -/
theorem run_collect_orderBy (hkeys : ∀ k ∈ keys, k.isSteady = true)
    (hready : keys.mapM (SortKey.ready c.compiler) = .ok ready) (inner : Plan) (source : Flow Solution) (st : Store) :
    (orderBy keys inner c source >>= collect).run st =
      (((inner c source >>= collect).run st).1.map fun rows => rows.mergeSort (mayPrecede ready),
        ((inner c source >>= collect).run st).2) := by
  have horder : orderBy keys inner c source =
      (do
        let stage ← inner c source
        return c.engine.rearrange (sortRows ready) <|
          mapRows c.engine (ready.foldl (fun n k => n + k.1.draws) 0) (keyValues ready)
            (c.engine.map (fun s => (s, [])) stage)) := by
    rw [orderBy, mapM_compileKey, hready]
    rfl
  rw [horder, draws_of_ready hkeys hready]
  refine run_collect_map (fun stage st => ?_) _ st
  rw [Engine.collect_rearrange, collect_mapRows, Engine.collect_map]
  cases (stage.collect st).1 with
  | error x => rfl
  | ok rows =>
    simp only [Except.map, List.map_map]
    rw [← sortRows_map]
    rfl

/-- Sorting is stable: what is delivered are the places of the solutions that are found, moved so that one comes before
another if the first key that tells their solutions apart puts it there, or if no key does and it was there before.
Sorting by the same keys again changes nothing. -/
theorem orderBy_sorts_stably (hkeys : ∀ k ∈ keys, k.isSteady = true) {inner : Plan} {source stage : Flow Solution}
    {st t u : Store} {rows : List Solution} (hbuilt : (inner c source).run st = (.ok stage, t))
    (hrows : stage.collect t = (.ok rows, u)) :
    (∀ x, keys.mapM (SortKey.ready c.compiler) = .error x → (orderBy keys inner c source).run st = (.error x, t)) ∧
    ∀ ready, keys.mapM (SortKey.ready c.compiler) = .ok ready →
      ∃ (sorted : List Solution) (placed : List (Solution × Nat)),
      (orderBy keys inner c source >>= collect).run st = (.ok sorted, u) ∧ sorted.Perm rows ∧
      placed.Perm rows.zipIdx ∧ placed.map Prod.fst = sorted ∧
      placed.Pairwise (fun a b => Precedes ready a.1 b.1 ∨ Ties ready a.1 b.1 ∧ a.2 < b.2) ∧
      (orderBy keys (orderBy keys inner) c source >>= collect).run st = (.ok sorted, u) := by
  refine ⟨fun x hx => ?_, fun ready hready => ?_⟩
  · rw [orderBy_of_not_ready hx, Build.run_bind_ok hbuilt]
    rfl
  · have hfound : (inner c source >>= collect).run st = (.ok rows, u) := (Build.run_bind_ok hbuilt).trans hrows
    obtain ⟨placed, hperm, hsorted, hpairs⟩ := exists_placed (mayPrecede_trans ready) (mayPrecede_total ready) rows
    have honce := run_collect_orderBy hkeys hready inner source st
    have htwice := run_collect_orderBy hkeys hready (orderBy keys inner) source st
    rw [hfound] at honce
    rw [honce] at htwice
    have hagain : (rows.mergeSort (mayPrecede ready)).mergeSort (mayPrecede ready) =
        rows.mergeSort (mayPrecede ready) :=
      List.mergeSort_of_pairwise (List.pairwise_mergeSort (mayPrecede_trans ready) (mayPrecede_total ready) rows)
    refine ⟨_, placed, honce, List.mergeSort_perm _ _, hperm, hsorted, hpairs.imp fun {a b} hab => ?_, ?_⟩
    · obtain ⟨hle, htie⟩ := hab
      rw [← compareRows_eq_lt, ← compareRows_eq_eq]
      have hswap : compareRows ready b.1 a.1 = (compareRows ready a.1 b.1).swap := Std.OrientedCmp.eq_swap
      rw [mayPrecede] at hle htie
      rw [hswap] at htie
      cases h : compareRows ready a.1 b.1 with
      | lt => exact .inl rfl
      | eq => exact .inr ⟨rfl, htie (by rw [h]; rfl)⟩
      | gt =>
        rw [h] at hle
        cases hle
    · rw [htwice]
      exact Prod.ext (congrArg Except.ok hagain) rfl

/-- Three solutions in descending order of a variable that one of them leaves open. -/
theorem orderBy_sorts_stably_descending :
    let x : Variable := ⟨"x"⟩
    let bound : String → Solution := fun text => Solution.empty.insert x (.iri ⟨text⟩)
    let rows : List Solution := [bound "http://example.com/a", .empty, bound "http://example.com/b"]
    let keys : List SortKey := [.descending (.var x)]
    let inner : Plan := fun _ source => return source
    let st : Store := ⟨⟨.empty defaultGraphIri ⟨true, true⟩, [], fun _ => ⟨true, true⟩⟩, none, 0⟩
    let c : Scope := ⟨⟨.streaming, ⟨1, .structural, false⟩⟩, ⟨[], .iri ⟨"http://example.com/p"⟩⟩, .default, none⟩
    let source : Flow Solution := .ofList rows
    (∀ k ∈ keys, k.isSteady = true) ∧ (inner c source).run st = (.ok source, st) ∧
      source.collect st = (.ok rows, st) ∧
      keys.mapM (SortKey.ready c.compiler) = .ok [(⟨.var x, 0, 0⟩, true)] ∧
      ∃ sorted, (orderBy keys inner c source >>= collect).run st = (.ok sorted, st) ∧ sorted.Perm rows ∧
        (orderBy keys (orderBy keys inner) c source >>= collect).run st = (.ok sorted, st) := by
  intro x bound rows keys inner st c source
  have hkeys : ∀ k ∈ keys, k.isSteady = true := by decide
  have hrows : source.collect st = (.ok rows, st) := Stage.collect_ofList rows st
  have hready : keys.mapM (SortKey.ready c.compiler) = .ok [(⟨.var x, 0, 0⟩, true)] := rfl
  have hbuilt : (inner c source).run st = (.ok source, st) := rfl
  obtain ⟨sorted, placed, hsorted, hperm, -, -, -, hagain⟩ := (orderBy_sorts_stably hkeys hbuilt hrows).2 _ hready
  exact ⟨hkeys, hbuilt, hrows, hready, sorted, hsorted, hperm, hagain⟩

end Plan

end SparqlAlgebra

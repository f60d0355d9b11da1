import SparqlAlgebra.Join.Bound
import SparqlAlgebra.Proofs.Pattern.Solutions
import SparqlAlgebra.Proofs.Solution.Rename
import SparqlAlgebra.Proofs.Value.IntegerText

/-!
# Marked variables

A marker is read back whatever the name is, even if the name contains one itself, as long as the position fits
in 64 bits. Marking the variables of patterns marks those of their solutions, and the markers of a solution that
binds something tell its position and what it was without them.
-/

namespace SparqlAlgebra

open Solution

namespace Marker

variable {i j : Nat} {v w : Variable} {m s u : Solution} {ts : List Triple} {ps : List TriplePattern}

/-- A marked name ends in the separator and the digits of the position. -/
theorem toList_mark (i : Nat) (v : Variable) :
    (mark i v).name.toList = v.name.toList ++ (separator ++ Nat.toDigits 10 i) := by
  simp [mark]

/-- Two markers that read the same belong to the same name. -/
theorem mark_injective (i : Nat) : Function.Injective (mark i) := by
  intro v w h
  have hl : (mark i v).name.toList = (mark i w).name.toList := by rw [h]
  rw [toList_mark, toList_mark] at hl
  exact eq_of_name_eq (String.toList_inj.1 (List.append_cancel_right hl))

/-- Without a separator there is nothing to split. -/
theorem splitAtLast_eq_none {cs : List Char} (h : '_' ∉ cs) : splitAtLast cs = none := by
  induction cs with
  | nil => rfl
  | cons c cs ih =>
    rw [List.mem_cons, not_or] at h
    rw [splitAtLast, ih h.2]
    have hp : separator.isPrefixOf (c :: cs) = false := by
      simp [separator, List.isPrefixOf, h.1]
    simp [hp]

/-- The last separator is found after any text, and what follows it is all that stands behind. -/
theorem splitAtLast_append (name : List Char) {ds : List Char} (h : '_' ∉ ds) :
    splitAtLast (name ++ (separator ++ ds)) = some (name, ds) := by
  induction name with
  | nil =>
    have hd := splitAtLast_eq_none h
    simp [separator, splitAtLast, hd, List.isPrefixOf]
  | cons c name ih =>
    rw [List.cons_append, splitAtLast, ih]

/-- A text is what stands before the separator that it is split at, the separator, and what stands behind. -/
theorem eq_append_of_splitAtLast {cs name ds : List Char} (h : splitAtLast cs = some (name, ds)) :
    cs = name ++ (separator ++ ds) := by
  induction cs generalizing name with
  | nil => cases h
  | cons c cs ih =>
    rw [splitAtLast] at h
    split at h
    case h_1 before after hsplit =>
      obtain ⟨rfl, rfl⟩ := Prod.mk.inj (Option.some.inj h)
      rw [List.cons_append, ← ih hsplit]
    case h_2 =>
      split at h
      case isTrue hfirst =>
        obtain ⟨rfl, rfl⟩ := Prod.mk.inj (Option.some.inj h)
        exact (List.prefix_iff_eq_append.1 (List.isPrefixOf_iff_prefix.1 hfirst)).symm
      case isFalse => cases h

/-- A name is read back as the one before the last separator, if a position of 64 bits is spelled behind. -/
theorem unmark?_eq_some_iff : unmark? v = some (w, i) ↔
    ∃ ds, v.name.toList = w.name.toList ++ (separator ++ ds) ∧ SpellsNat ds i ∧ i < 2 ^ 64 := by
  constructor
  · intro h
    obtain ⟨⟨name, ds⟩, hsplit, h⟩ := Option.bind_eq_some_iff.1 h
    obtain ⟨k, hk, h⟩ := Option.bind_eq_some_iff.1 h
    obtain ⟨rfl, rfl⟩ := Prod.mk.inj (Option.some.inj h)
    exact ⟨ds, by rw [String.toList_ofList, eq_append_of_splitAtLast hsplit], readNat64?_eq_some_iff.1 hk⟩
  · rintro ⟨ds, hv, hds⟩
    have hsplit := splitAtLast_append w.name.toList (hds.1.notMem rfl (by decide))
    unfold unmark?
    rw [hv, hsplit]
    simp [readNat64?_eq_some_iff.2 hds]

/-- The name and the position are read back from a marked name. -/
theorem unmark?_mark (h : i < 2 ^ 64) (v : Variable) : unmark? (mark i v) = some (v, i) :=
  unmark?_eq_some_iff.2 ⟨_, toList_mark i v, spellsNat_toDigits i, h⟩

/-- A name carries the marker of a position of 64 bits: it ends in the separator and a spelling of the position. -/
def Carries (v : Variable) (i : Nat) : Prop :=
  ∃ name ds, v.name.toList = name ++ (separator ++ ds) ∧ SpellsNat ds i ∧ i < 2 ^ 64

/-- A name carries a marker if that can be taken off. -/
theorem carries_iff : Carries v i ↔ ∃ w, unmark? v = some (w, i) := by
  simp only [unmark?_eq_some_iff, Carries]
  constructor
  · rintro ⟨name, ds, hv, hds⟩
    exact ⟨⟨String.ofList name⟩, ds, by rwa [String.toList_ofList], hds⟩
  · rintro ⟨w, ds, hv, hds⟩
    exact ⟨_, ds, hv, hds⟩

/-- A marked name carries its marker. -/
theorem carries_mark (h : i < 2 ^ 64) (v : Variable) : Carries (mark i v) i := carries_iff.2 ⟨v, unmark?_mark h v⟩

/-- A name carries no second marker, even if it contains one. -/
theorem Carries.unique (hi : Carries v i) (hj : Carries v j) : i = j := by
  obtain ⟨x, hx⟩ := carries_iff.1 hi
  obtain ⟨y, hy⟩ := carries_iff.1 hj
  rw [hx] at hy
  exact congrArg Prod.snd (Option.some.inj hy)

/-! ## Solutions -/

/-- What a whole list is mapped to comes from the members of the list. -/
theorem forall_of_mapM {α β : Type} {f : α → Option β} {xs : List α} {ys : List β} (h : xs.mapM f = some ys) :
    ∀ x ∈ xs, ∃ y ∈ ys, f x = some y := by
  induction xs generalizing ys with
  | nil => exact nofun
  | cons x xs ih =>
    rw [List.mapM_cons] at h
    obtain ⟨z, hz, h⟩ := Option.bind_eq_some_iff.1 h
    obtain ⟨zs, hzs, h⟩ := Option.bind_eq_some_iff.1 h
    obtain rfl := Option.some.inj h
    refine List.forall_mem_cons.2 ⟨⟨z, List.mem_cons_self, hz⟩, fun y hy => ?_⟩
    obtain ⟨u, hu, hy⟩ := ih hzs y hy
    exact ⟨u, List.mem_cons_of_mem z hu, hy⟩

/-- A name without the marker that it carries. -/
def bare (v : Variable) : Variable := ((unmark? v).map (·.1)).getD v

/-- Taking the marker off gives the name back. -/
theorem bare_mark (h : i < 2 ^ 64) (v : Variable) : bare (mark i v) = v := by
  rw [bare, unmark?_mark h]
  rfl

/-- The markers of all bindings are taken off at once if each carries it. -/
theorem mapM_unmark {es : List (Variable × Term)} (h : ∀ e ∈ es, Carries e.1 i) :
    es.mapM (fun (v, t) => (unmark? v).map fun (w, i) => (w, i, t)) = some (es.map fun e => (bare e.1, i, e.2)) := by
  induction es with
  | nil => rfl
  | cons e es ih =>
    obtain ⟨v, hv⟩ := carries_iff.1 (h e List.mem_cons_self)
    have hes := ih fun e he => h e (List.mem_cons_of_mem _ he)
    rw [List.mapM_cons, hes]
    simp [bare, hv]

/-- The markers of a solution are read back if it binds something and all its variables carry the same one. -/
theorem unmarkSolution?_eq_some_iff : unmarkSolution? m = some (i, u) ↔
    m ≠ .empty ∧ (∀ v, m.binds v = true → Carries v i) ∧ m.rename bare = u := by
  have hbinds : (∀ v, m.binds v = true → Carries v i) ↔ ∀ e ∈ m.entries, Carries e.1 i := by
    simp only [binds_iff, get?_eq_some_iff]
    exact ⟨fun h e he => h e.1 ⟨e.2, he⟩, fun h v ⟨t, ht⟩ => h _ ht⟩
  have hempty : m = .empty ↔ m.entries = [] := by
    rw [← Solution.isEmpty_iff, Solution.isEmpty, List.isEmpty_iff]
  rw [hbinds, ne_eq, hempty, rename]
  unfold unmarkSolution?
  generalize m.entries = es
  constructor
  · intro h
    obtain ⟨rs, hrs, h⟩ := Option.bind_eq_some_iff.1 h
    obtain ⟨⟨w, k, t⟩, hhead, h⟩ := Option.bind_eq_some_iff.1 h
    obtain ⟨hall, h⟩ := Option.ite_none_right_eq_some.1 h
    obtain ⟨rfl, rfl⟩ := Prod.mk.inj (Option.some.inj h)
    have hcarries : ∀ e ∈ es, Carries e.1 k := by
      intro e he
      obtain ⟨r, hr, her⟩ := forall_of_mapM hrs e he
      obtain ⟨⟨x, j⟩, hx, rfl⟩ := Option.map_eq_some_iff.1 her
      obtain rfl : j = k := eq_of_beq (List.all_eq_true.1 hall _ hr)
      exact carries_iff.2 ⟨x, hx⟩
    rw [mapM_unmark hcarries, Option.some.injEq] at hrs
    subst hrs
    refine ⟨?_, hcarries, by rw [List.map_map]; rfl⟩
    rintro rfl
    cases hhead
  · rintro ⟨hne, hcarries, rfl⟩
    rw [mapM_unmark hcarries]
    obtain ⟨e, es, rfl⟩ := List.exists_cons_of_ne_nil hne
    simp [Function.comp_def]

/-- The markers of a solution that binds something are read back. -/
theorem unmarkSolution?_rename (h : i < 2 ^ 64) (hs : s ≠ .empty) :
    unmarkSolution? (s.rename (mark i)) = some (i, s) := by
  refine unmarkSolution?_eq_some_iff.2 ⟨fun he => hs (rename_eq_empty (mark_injective i) he), fun w hw => ?_, ?_⟩
  · obtain ⟨t, ht⟩ := binds_iff.1 hw
    obtain ⟨v, rfl, -⟩ := (get?_rename_eq_some_iff (mark_injective i)).1 ht
    exact carries_mark h v
  · exact rename_rename (bare_mark h) s

/-- A marked slot matches in marked solutions what the slot matches. -/
theorem match?_markSlot (i : Nat) (x : Slot) (t : Term) (s : Solution) :
    (markSlot i x).match? t (s.rename (mark i)) = (x.match? t s).map (rename (mark i)) := by
  cases x with
  | term u => by_cases h : u = t <;> simp [markSlot, Slot.match?, h]
  | var v =>
    simp only [markSlot, Slot.match?, get?_rename (mark_injective i)]
    cases s.get? v with
    | none => simp [rename_insert (mark_injective i)]
    | some u => by_cases h : u = t <;> simp [h]

/-- A marked slot for IRIs matches in marked solutions what the slot matches. -/
theorem match?_markIriSlot (i : Nat) (x : IriSlot) (n : Iri) (s : Solution) :
    (markIriSlot i x).match? n (s.rename (mark i)) = (x.match? n s).map (rename (mark i)) := by
  cases x with
  | iri m => by_cases h : m = n <;> simp [markIriSlot, IriSlot.match?, h]
  | var v => exact match?_markSlot i (.var v) (.iri n) s

/-- Marked patterns match with marked bindings. -/
theorem match?_markPattern (i : Nat) (p : TriplePattern) (t : Triple) :
    (markPattern i p).match? t = (p.match? t).map (rename (mark i)) := by
  have hs := match?_markSlot i p.subject t.subject.toTerm .empty
  rw [rename_empty] at hs
  unfold TriplePattern.match? markPattern
  rw [hs, Option.bind_map, Option.map_bind]
  refine Option.bind_congr fun a _ => ?_
  rw [Function.comp_apply, match?_markIriSlot, Option.bind_map, Function.comp_apply, Option.map_bind]
  exact Option.bind_congr fun b _ => match?_markSlot i p.object t.object b

/-- Marked patterns have marked solutions. -/
theorem solutions_markPattern (i : Nat) (ts : List Triple) (ps : List TriplePattern) :
    solutions ts (ps.map (markPattern i)) = (solutions ts ps).map (rename (mark i)) := by
  induction ps with
  | nil => simp
  | cons p ps ih =>
    have hp : (markPattern i p).matchesIn ts = (p.matchesIn ts).map (rename (mark i)) := by
      unfold TriplePattern.matchesIn
      rw [Multiset.map_coe, List.map_filterMap]
      simp only [match?_markPattern]
    rw [List.map_cons, solutions_cons, solutions_cons, ih, hp, join_map_rename (mark_injective i)]

end Marker

end SparqlAlgebra

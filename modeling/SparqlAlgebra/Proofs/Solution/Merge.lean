import SparqlAlgebra.Solution

/-!
# Looking up and merging bindings

A solution is determined by what each variable is bound to, so every operation is described by the look-ups
in its result. Two solutions merge exactly if they agree on the variables that both bind; merging is
commutative and associative, and the empty solution is neutral.
-/

namespace SparqlAlgebra

namespace Solution

variable {s a b c d : Solution} {v w : Variable} {t u : Term}

/-- A name tells a variable. -/
theorem eq_of_name_eq (h : v.name = w.name) : v = w := by
  cases v
  cases w
  simpa using h

/-- Looking up finds exactly the bindings in the list. -/
theorem get?_eq_some_iff : s.get? v = some t ↔ (v, t) ∈ s.entries := by
  obtain ⟨es, hs⟩ := s
  simp only [get?]
  induction es with
  | nil => simp
  | cons e es ih =>
    obtain ⟨hlt, hes⟩ := List.pairwise_cons.1 hs
    rw [List.lookup_cons, List.mem_cons]
    by_cases hv : v = e.1
    · have hne : (v, t) ∉ es := by
        intro hm
        have hl := hlt _ hm
        rw [hv] at hl
        exact String.lt_irrefl _ hl
      subst hv
      simp only [beq_self_eq_true, Option.some.injEq, hne, or_false]
      constructor
      · rintro rfl
        rfl
      · intro h
        exact (congrArg Prod.snd h).symm
    · have hb : (v == e.1) = false := by simpa using hv
      have hne : (v, t) ≠ e := by
        rintro rfl
        exact hv rfl
      rw [hb]
      simpa [hne] using ih hes

/-- Solutions that bind the same are equal. -/
theorem ext_get? (h : ∀ v, a.get? v = b.get? v) : a = b := by
  obtain ⟨as, ha⟩ := a
  obtain ⟨bs, hb⟩ := b
  have hm : ∀ e, e ∈ as ↔ e ∈ bs := by
    rintro ⟨v, t⟩
    have hv := h v
    have hl := get?_eq_some_iff (s := ⟨as, ha⟩) (v := v) (t := t)
    have hr := get?_eq_some_iff (s := ⟨bs, hb⟩) (v := v) (t := t)
    rw [← hl, ← hr, hv]
  have nodup : ∀ {es : List (Variable × Term)}, es.Pairwise (fun a b => a.1.name < b.1.name) → es.Nodup := by
    intro es hes
    refine hes.imp ?_
    rintro x y hxy rfl
    exact String.lt_irrefl _ hxy
  have hp : as.Perm bs := (List.perm_ext_iff_of_nodup (nodup ha) (nodup hb)).2 hm
  have he : as = bs := by
    have hanti : ∀ x y : Variable × Term, x ∈ as → y ∈ bs →
        x.1.name < y.1.name → y.1.name < x.1.name → x = y := by
      intro x y _ _ hxy hyx
      exact absurd (String.lt_trans hxy hyx) (String.lt_irrefl _)
    exact hp.eq_of_pairwise hanti ha hb
  subst he
  rfl

/-- Solutions are the same if they bind the same variables to the same terms. -/
theorem ext_iff : a = b ↔ ∀ v, a.get? v = b.get? v :=
  ⟨fun h v => by rw [h], ext_get?⟩

/-- The empty solution has no terms. -/
@[simp] theorem get?_empty : empty.get? v = none := rfl

/-- Inserting an entry into a sorted list replaces the one for its variable. -/
theorem mem_insertEntry_iff {es : List (Variable × Term)} {e : Variable × Term}
    (hs : es.Pairwise fun a b => a.1.name < b.1.name) :
    e ∈ insertEntry v t es ↔ e = (v, t) ∨ (e ∈ es ∧ e.1 ≠ v) := by
  induction es with
  | nil => simp [insertEntry]
  | cons f es ih =>
    obtain ⟨hlt, hes⟩ := List.pairwise_cons.1 hs
    unfold insertEntry
    split
    · rename_i hvf
      have hne : ∀ x ∈ f :: es, x.1 ≠ v := by
        intro x hx he
        have hvx : v.name < x.1.name := by
          rcases List.mem_cons.1 hx with rfl | hx
          · exact hvf
          · exact String.lt_trans hvf (hlt x hx)
        rw [he] at hvx
        exact String.lt_irrefl _ hvx
      constructor
      · intro h
        rcases List.mem_cons.1 h with h | h
        · exact .inl h
        · exact .inr ⟨h, hne e h⟩
      · rintro (rfl | ⟨h, _⟩)
        · simp
        · exact List.mem_cons_of_mem _ h
    · rename_i hvf
      split
      · rename_i hfv
        have hne : f.1 ≠ v := by
          intro he
          rw [he] at hfv
          exact String.lt_irrefl _ hfv
        rw [List.mem_cons, ih hes, List.mem_cons]
        constructor
        · rintro (rfl | rfl | ⟨h, hn⟩)
          · exact .inr ⟨.inl rfl, hne⟩
          · exact .inl rfl
          · exact .inr ⟨.inr h, hn⟩
        · rintro (rfl | ⟨rfl | h, hn⟩)
          · exact .inr (.inl rfl)
          · exact .inl rfl
          · exact .inr (.inr ⟨h, hn⟩)
      · rename_i hfv
        have hf : f.1 = v := eq_of_name_eq (String.le_antisymm (String.not_lt.1 hvf) (String.not_lt.1 hfv))
        have hne : ∀ x ∈ es, x.1 ≠ v := by
          intro x hx he
          have hl := hlt x hx
          rw [he, hf] at hl
          exact String.lt_irrefl _ hl
        rw [List.mem_cons, List.mem_cons]
        constructor
        · rintro (h | h)
          · exact .inl h
          · exact .inr ⟨.inr h, hne e h⟩
        · rintro (h | ⟨rfl | h, hn⟩)
          · exact .inl h
          · exact absurd hf hn
          · exact .inr h

/-- Inserting binds the variable and changes no other. -/
@[simp] theorem get?_insert : (s.insert v t).get? w = if w = v then some t else s.get? w := by
  apply Option.ext
  intro u
  rw [get?_eq_some_iff]
  simp only [insert]
  rw [mem_insertEntry_iff s.ascending]
  by_cases h : w = v
  · subst h
    simp [eq_comm]
  · simp [h, get?_eq_some_iff]

/-- Filtering keeps the bindings that satisfy the condition. -/
theorem get?_filter (p : Variable → Term → Bool) :
    (s.filter p).get? v = (s.get? v).filter (p v) := by
  apply Option.ext
  intro u
  rw [get?_eq_some_iff, Option.filter_eq_some_iff, get?_eq_some_iff]
  simp [filter]

/-- A projection has the terms of the variables that it shows. -/
@[simp] theorem get?_project (vs : List Variable) :
    (s.project vs).get? v = if v ∈ vs then s.get? v else none := by
  rw [project, get?_filter]
  by_cases h : v ∈ vs <;> cases s.get? v <;> simp [h]

/-- A variable is bound if it has a term. -/
theorem binds_iff : s.binds v = true ↔ ∃ t, s.get? v = some t := by
  simp [binds, Option.isSome_iff_exists]

/-- A solution is empty if and only if it is the empty one. -/
theorem isEmpty_iff : s.isEmpty = true ↔ s = empty := by
  obtain ⟨es, hs⟩ := s
  simp [isEmpty, empty]

/-- Folding entries into a solution: the last one of a variable is decisive. -/
theorem get?_foldl_insert (es : List (Variable × Term)) :
    (es.foldl (fun s e => s.insert e.1 e.2) s).get? v = (es.reverse.lookup v).or (s.get? v) := by
  induction es generalizing s with
  | nil => simp
  | cons e es ih =>
    rw [List.foldl_cons, ih, get?_insert, List.reverse_cons, List.lookup_append]
    cases h : es.reverse.lookup v with
    | some u => simp
    | none =>
      rw [Option.none_or, List.lookup_cons]
      by_cases hv : v = e.1
      · simp [hv]
      · have hb : (v == e.1) = false := by simpa using hv
        simp [hb, hv]

/-- Among entries with different variables no order of them matters. -/
theorem lookup_reverse_entries (b : Solution) : b.entries.reverse.lookup v = b.get? v := by
  apply Option.ext
  intro u
  rw [get?_eq_some_iff, List.lookup_eq_some_iff]
  constructor
  · rintro ⟨l₁, l₂, he, -⟩
    have hm : (v, u) ∈ b.entries.reverse := by
      rw [he]
      simp
    simpa using hm
  · intro hm
    obtain ⟨l₁, l₂, he⟩ := List.append_of_mem hm
    refine ⟨l₂.reverse, l₁.reverse, by simp [he], ?_⟩
    intro p hp
    have hs := b.ascending
    rw [he, List.pairwise_append, List.pairwise_cons] at hs
    have hl := hs.2.1.1 p (List.mem_reverse.1 hp)
    have hne : v ≠ p.1 := by
      rintro rfl
      exact String.lt_irrefl _ hl
    simpa using hne

/-- The second solution is decisive in a union. -/
@[simp] theorem get?_union : (a.union b).get? v = (b.get? v).or (a.get? v) := by
  rw [union, get?_foldl_insert, lookup_reverse_entries]

/-- Two solutions agree on the variables that both bind. -/
def Agree (a b : Solution) : Prop := ∀ v t u, a.get? v = some t → b.get? v = some u → t = u

/-- It does not matter which of two solutions that agree comes first. -/
theorem Agree.symm (h : Agree a b) : Agree b a := fun v t u hb ha => (h v u t ha hb).symm

/-- Every solution agrees with the empty one. -/
theorem agree_empty : Agree a empty := by
  intro v t u _ h
  simp at h

/-- The entries can be compared one by one. -/
theorem all_entries_iff_agree :
    (a.entries.all fun e => ((b.get? e.1).map (· == e.2)).getD true) = true ↔ Agree a b := by
  rw [List.all_eq_true]
  constructor
  · intro h v t u ha hb
    have hv := h (v, t) (get?_eq_some_iff.1 ha)
    have he : u = t := by simpa [hb] using hv
    exact he.symm
  · rintro h ⟨v, t⟩ hm
    cases hb : b.get? v with
    | none => simp
    | some u =>
      have he := h v t u (get?_eq_some_iff.2 hm) hb
      simp [he]

/-- Solutions are compatible if they agree. -/
theorem isCompatible_iff : a.isCompatible b = true ↔ Agree a b := by
  by_cases h : a.size ≤ b.size
  · simp only [isCompatible, smallerFirst, h, if_true]
    exact all_entries_iff_agree
  · simp only [isCompatible, smallerFirst, h, if_false]
    exact all_entries_iff_agree.trans ⟨Agree.symm, Agree.symm⟩

/-- Merging succeeds for solutions that agree, and binds what either of them binds. -/
theorem merge?_eq_some_iff : a.merge? b = some c ↔ Agree a b ∧ ∀ v, c.get? v = (b.get? v).or (a.get? v) := by
  unfold merge?
  split
  · rename_i h
    rw [isCompatible_iff] at h
    rw [Option.some.injEq, ext_iff]
    simp only [get?_union, h, true_and]
    exact ⟨fun hv v => (hv v).symm, fun hv v => (hv v).symm⟩
  · rename_i h
    rw [isCompatible_iff] at h
    simp [h]

/-- The empty solution is neutral on the right. -/
@[simp] theorem merge?_empty (a : Solution) : a.merge? empty = some a := by
  rw [merge?_eq_some_iff]
  exact ⟨agree_empty, by simp⟩

/-- Merging does not depend on which solution comes first. -/
theorem merge?_comm (a b : Solution) : a.merge? b = b.merge? a := by
  apply Option.ext
  intro c
  rw [merge?_eq_some_iff, merge?_eq_some_iff]
  have key : Agree a b → ∀ v, (b.get? v).or (a.get? v) = (a.get? v).or (b.get? v) := by
    intro h v
    cases ha : a.get? v with
    | none => simp
    | some t =>
      cases hb : b.get? v with
      | none => simp
      | some u => simp [h v t u ha hb]
  constructor
  · rintro ⟨h, hc⟩
    exact ⟨h.symm, fun v => (hc v).trans (key h v)⟩
  · rintro ⟨h, hc⟩
    exact ⟨h.symm, fun v => (hc v).trans (key h.symm v).symm⟩

/-- The empty solution is neutral on the left. -/
@[simp] theorem empty_merge? (a : Solution) : empty.merge? a = some a := by
  rw [merge?_comm, merge?_empty]

/-- The result of a merge agrees with a third solution exactly if both parts do. -/
theorem agree_of_merge? (h : a.merge? b = some c) : Agree c d ↔ Agree a d ∧ Agree b d := by
  obtain ⟨hab, hc⟩ := merge?_eq_some_iff.1 h
  constructor
  · intro hcd
    constructor
    · intro v t u ha hd
      cases hb : b.get? v with
      | none => exact hcd v t u (by simp [hc, hb, ha]) hd
      | some w =>
        have hw := hab v t w ha hb
        exact hcd v t u (by simp [hc, hb, hw]) hd
    · intro v t u hb hd
      exact hcd v t u (by simp [hc, hb]) hd
  · rintro ⟨had, hbd⟩ v t u hv hd
    rw [hc] at hv
    cases hb : b.get? v with
    | none =>
      rw [hb] at hv
      exact had v t u hv hd
    | some w =>
      rw [hb] at hv
      have hw : w = t := by simpa using hv
      exact hbd v t u (hw ▸ hb) hd

/-- Merging three solutions does not depend on the grouping. -/
theorem merge?_assoc (a b c : Solution) :
    ((a.merge? b).bind fun ab => ab.merge? c) = (b.merge? c).bind fun bc => a.merge? bc := by
  apply Option.ext
  intro d
  rw [Option.bind_eq_some_iff, Option.bind_eq_some_iff]
  constructor
  · rintro ⟨ab, hab, hd⟩
    obtain ⟨h₁, hg₁⟩ := merge?_eq_some_iff.1 hab
    obtain ⟨h₂, hg₂⟩ := merge?_eq_some_iff.1 hd
    obtain ⟨hac, hbc⟩ := (agree_of_merge? hab).1 h₂
    have hm : b.merge? c = some (b.union c) := merge?_eq_some_iff.2 ⟨hbc, by simp⟩
    refine ⟨b.union c, hm, merge?_eq_some_iff.2 ⟨?_, ?_⟩⟩
    · exact ((agree_of_merge? hm).2 ⟨h₁.symm, hac.symm⟩).symm
    · intro v
      rw [hg₂, hg₁, get?_union, Option.or_assoc]
  · rintro ⟨bc, hbc, hd⟩
    obtain ⟨h₁, hg₁⟩ := merge?_eq_some_iff.1 hbc
    obtain ⟨h₂, hg₂⟩ := merge?_eq_some_iff.1 hd
    obtain ⟨hab, hac⟩ := (agree_of_merge? hbc).1 h₂.symm
    have hm : a.merge? b = some (a.union b) := merge?_eq_some_iff.2 ⟨hab.symm, by simp⟩
    refine ⟨a.union b, hm, merge?_eq_some_iff.2 ⟨?_, ?_⟩⟩
    · exact (agree_of_merge? hm).2 ⟨hac.symm, h₁⟩
    · intro v
      rw [hg₂, hg₁, get?_union, Option.or_assoc]

/-- All bindings of the first solution hold in the second. -/
def Extends (c a : Solution) : Prop := ∀ v t, a.get? v = some t → c.get? v = some t

/-- A solution extends itself. -/
theorem Extends.refl (a : Solution) : Extends a a := fun _ _ h => h

/-- What extends an extension extends the solution. -/
theorem Extends.trans (h₁ : Extends c b) (h₂ : Extends b a) : Extends c a :=
  fun v t h => h₁ v t (h₂ v t h)

/-- An extension binds what the solution binds. -/
theorem Extends.binds (h : Extends c a) (hv : a.binds v = true) : c.binds v = true := by
  obtain ⟨t, ht⟩ := binds_iff.1 hv
  exact binds_iff.2 ⟨t, h v t ht⟩

/-- A solution that extends another one and binds nothing else is that one. -/
theorem Extends.eq (h : Extends c a) (hv : ∀ v, c.binds v = true → a.binds v = true) : c = a := by
  refine ext_get? fun v => ?_
  cases hc : c.get? v with
  | some t =>
    obtain ⟨u, hu⟩ := binds_iff.1 (hv v (binds_iff.2 ⟨t, hc⟩))
    have hcu := h v u hu
    rw [hu, ← hc, hcu]
  | none =>
    cases ha : a.get? v with
    | none => rfl
    | some u =>
      have hcu := h v u ha
      rw [hc] at hcu
      exact hcu

/-- A merge extends both solutions. -/
theorem extends_of_merge? (h : a.merge? b = some c) : Extends c a ∧ Extends c b := by
  obtain ⟨hab, hc⟩ := merge?_eq_some_iff.1 h
  constructor
  · intro v t ha
    cases hb : b.get? v with
    | none => simp [hc, hb, ha]
    | some u => simp [hc, hb, hab v t u ha hb]
  · intro v t hb
    simp [hc, hb]

/-- A merge is the solution that extends both parts and binds nothing else. -/
theorem merge?_eq_some_iff_extends :
    a.merge? b = some c ↔
      Extends c a ∧ Extends c b ∧ ∀ v, c.binds v = true → a.binds v = true ∨ b.binds v = true := by
  constructor
  · intro h
    obtain ⟨ha, hb⟩ := extends_of_merge? h
    obtain ⟨-, hc⟩ := merge?_eq_some_iff.1 h
    refine ⟨ha, hb, fun v hv => ?_⟩
    simp only [binds, hc] at hv ⊢
    cases hbv : b.get? v with
    | none => exact .inl (by simpa [hbv] using hv)
    | some u => exact .inr rfl
  · rintro ⟨ha, hb, hv⟩
    refine merge?_eq_some_iff.2 ⟨fun v t u hat hbu => ?_, fun v => ?_⟩
    · have ht := ha v t hat
      have hu := hb v u hbu
      simpa [ht] using hu
    · cases hbv : b.get? v with
      | some u => simp [hb v u hbv]
      | none =>
        cases hav : a.get? v with
        | some t => simp [ha v t hav]
        | none =>
          cases hcv : c.get? v with
          | none => rfl
          | some x =>
            have hx := hv v (by simp [binds, hcv])
            simp [binds, hav, hbv] at hx

/-- Parts of one solution can be merged, and the merge is a part of it. -/
theorem exists_merge? (ha : Extends d a) (hb : Extends d b) : ∃ c, a.merge? b = some c ∧ Extends d c := by
  have hab : Agree a b := by
    intro v t u hat hbu
    have hd := ha v t hat
    rw [hb v u hbu] at hd
    exact (Option.some.inj hd).symm
  refine ⟨a.union b, merge?_eq_some_iff.2 ⟨hab, by simp⟩, fun v t hv => ?_⟩
  rw [get?_union] at hv
  cases hbv : b.get? v with
  | some u =>
    rw [hbv] at hv
    exact hb v t (hbv.trans hv)
  | none =>
    rw [hbv] at hv
    exact ha v t hv

/-- A merge binds what either part binds. -/
theorem binds_of_merge? (h : a.merge? b = some c) :
    c.binds v = true ↔ a.binds v = true ∨ b.binds v = true := by
  obtain ⟨ha, hb, hv⟩ := merge?_eq_some_iff_extends.1 h
  exact ⟨hv v, fun h => h.elim ha.binds hb.binds⟩

/-- Solutions can be merged if they agree. -/
theorem isSome_merge?_iff : (a.merge? b).isSome = true ↔ Agree a b := by
  rw [← isCompatible_iff, merge?]
  split <;> simp_all

/-- A merge has the bindings of either part. -/
theorem get?_of_merge? (h : a.merge? b = some c) :
    c.get? v = some t ↔ a.get? v = some t ∨ b.get? v = some t := by
  obtain ⟨ha, hb⟩ := extends_of_merge? h
  refine ⟨fun hc => ?_, fun hab => hab.elim (ha v t) (hb v t)⟩
  rw [(merge?_eq_some_iff.1 h).2, Option.or_eq_some_iff] at hc
  exact hc.symm.imp And.right id

/-- A solution is a subset of those that extend it. -/
theorem isSubset_iff : a.isSubset b = true ↔ Extends b a := by
  simp only [isSubset, List.all_eq_true, beq_iff_eq, Prod.forall, ← get?_eq_some_iff, Extends]

/-- A merge adds nothing to the second part if and only if that extends the first. -/
theorem merge?_eq_right_iff : a.merge? b = some b ↔ Extends b a := by
  rw [merge?_eq_some_iff_extends]
  exact ⟨And.left, fun h => ⟨h, Extends.refl b, fun _ hv => .inr hv⟩⟩

/-- A partial operation is commutative and associative, also in where it is defined, and has a neutral element. -/
structure IsPartialCommMonoid {α : Type} (op : α → α → Option α) (neutral : α) : Prop where
  /-- The order does not matter. -/
  comm : ∀ a b, op a b = op b a
  /-- The grouping does not matter, also for where the operation is defined. -/
  assoc : ∀ a b c, ((op a b).bind fun ab => op ab c) = (op b c).bind fun bc => op a bc
  /-- The neutral element changes nothing. -/
  neutral_op : ∀ a, op neutral a = some a

/-- Merging makes the solutions a partial commutative monoid. Two of them merge if and only if they agree on the
variables that both bind, the merge binds what either binds, and the subsets of a solution are what it absorbs. -/
theorem merge?_partialCommMonoid :
    IsPartialCommMonoid merge? empty ∧
    ∀ a b : Solution,
      ((a.merge? b).isSome = true ↔ ∀ v t u, a.get? v = some t → b.get? v = some u → t = u) ∧
      (∀ c, a.merge? b = some c → ∀ v t, c.get? v = some t ↔ a.get? v = some t ∨ b.get? v = some t) ∧
      (a.isSubset b = true ↔ a.merge? b = some b) :=
  ⟨⟨merge?_comm, merge?_assoc, empty_merge?⟩, fun _ _ =>
    ⟨isSome_merge?_iff, fun _ h _ _ => get?_of_merge? h, isSubset_iff.trans merge?_eq_right_iff.symm⟩⟩

end Solution

end SparqlAlgebra

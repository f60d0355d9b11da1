import Mathlib.Data.List.ReduceOption
import SparqlAlgebra.Proofs.Solution.Merge
import SparqlAlgebra.TriplePattern

/-!
# Matching triple patterns

A match of a pattern against a triple is the one solution that binds the variables of the pattern and makes it
the triple. Filling in bindings first, matching what is left and merging gives the same as matching and merging,
also where a variable cannot be filled in because it is bound to something that no predicate can be.
-/

namespace SparqlAlgebra

open Solution

variable {s a b c m : Solution} {v : Variable}

/-- Merging with a single binding looks at that variable only. -/
theorem Solution.merge?_single (s : Solution) (v : Variable) (t : Term) :
    s.merge? (Solution.empty.insert v t) =
      match s.get? v with
      | some u => if u = t then some s else none
      | none => some (s.insert v t) := by
  apply Option.ext
  intro c
  rw [merge?_eq_some_iff]
  have hagree : Agree s (Solution.empty.insert v t) ↔ ∀ u, s.get? v = some u → u = t := by
    constructor
    · intro h u hu
      exact h v u t hu (by simp)
    · intro h w x y hx hy
      rw [get?_insert] at hy
      split at hy
      · rename_i hw
        subst hw
        rw [h x hx]
        simpa using hy
      · simp at hy
  rw [hagree]
  cases hv : s.get? v with
  | none =>
    simp only [reduceCtorEq, false_implies, implies_true, true_and, Option.some.injEq]
    rw [eq_comm, ext_iff]
    refine forall_congr' fun w => ?_
    by_cases hw : w = v <;> simp [hw]
  | some u =>
    dsimp only
    split
    · rename_i hu
      subst hu
      simp only [Option.some.injEq, forall_eq', true_and]
      rw [eq_comm, ext_iff]
      refine forall_congr' fun w => ?_
      by_cases hw : w = v <;> simp [hw, hv]
    · rename_i hu
      simp [hu]

namespace Slot

variable {x : Slot} {t : Term}

/-- A variable is matched by merging with its binding. -/
theorem match?_var (v : Variable) (t : Term) (s : Solution) :
    (Slot.var v).match? t s = s.merge? (Solution.empty.insert v t) :=
  (merge?_single s v t).symm

/-- Matching goes on from a solution by merging with the bindings of the slot alone. -/
theorem match?_eq_bind_merge? (x : Slot) (t : Term) (s : Solution) :
    x.match? t s = (x.match? t .empty).bind s.merge? := by
  cases x with
  | var v => rw [match?_var, match?_var, empty_merge?, Option.bind_some]
  | term u => by_cases h : u = t <;> simp [match?, h]

/-- Merging before a match is merging after it. -/
theorem match?_bind_merge? (x : Slot) (t : Term) (s a : Solution) :
    (x.match? t a).bind s.merge? = (s.merge? a).bind (x.match? t) := by
  obtain ⟨found, hf⟩ : ∃ found : Option Solution, x.match? t = fun b => found.bind b.merge? :=
    ⟨_, funext (match?_eq_bind_merge? x t)⟩
  rw [hf, Option.bind_assoc]
  cases found with
  | none => simp
  | some m => exact (merge?_assoc s a m).symm

/-- A match is the solution that makes the slot the term, extends the one it started from and binds no other
variable. -/
theorem match?_eq_some_iff :
    x.match? t s = some c ↔
      x.bind c = .term t ∧ Extends c s ∧ ∀ v, c.binds v = true → s.binds v = true ∨ x.var? = some v := by
  cases x with
  | var v =>
    have hterm : ((Slot.var v).bind c = .term t) ↔ c.get? v = some t := by
      simp only [bind]
      cases c.get? v <;> simp
    have he : Extends c (Solution.empty.insert v t) ↔ c.get? v = some t := by
      constructor
      · intro h
        exact h v t (by simp)
      · intro h w u hu
        rw [get?_insert] at hu
        split at hu
        · rename_i hw
          rw [hw, h, ← hu]
        · simp at hu
    have hb : ∀ w, (Solution.empty.insert v t).binds w = true ↔ v = w := by
      intro w
      rw [binds, get?_insert]
      by_cases hw : w = v
      · simp [hw]
      · simp [hw, Ne.symm hw]
    rw [match?_var, merge?_eq_some_iff_extends, hterm, he]
    simp only [hb, var?, Option.some.injEq]
    exact and_left_comm
  | term u =>
    simp only [match?, bind, var?, reduceCtorEq, or_false, Slot.term.injEq]
    constructor
    · intro h
      split at h
      · rename_i hu
        obtain rfl : s = c := by simpa using h
        exact ⟨hu, fun v t h => h, fun v h => h⟩
      · simp at h
    · rintro ⟨rfl, he, hb⟩
      rw [if_pos rfl, Option.some.injEq]
      exact (he.eq hb).symm

/-- What holds the term goes on holding it under more bindings. -/
theorem bind_of_extends (h : Extends c a) (hx : x.bind a = .term t) : x.bind c = .term t := by
  cases x with
  | term u => exact hx
  | var v =>
    cases ha : a.get? v with
    | none => simp [bind, ha] at hx
    | some u =>
      have hc := h v u ha
      simpa [bind, ha, hc] using hx

/-- A variable that became a term is bound by the row. -/
theorem binds_of_bind_eq (hx : x.bind c = .term t) (hv : x.var? = some v) : c.binds v = true := by
  cases x with
  | term u => simp [var?] at hv
  | var w =>
    obtain rfl : w = v := by simpa [var?] using hv
    cases hc : c.get? w with
    | none => simp [bind, hc] at hx
    | some u => simp [binds, hc]

/-- A solution under which the slot holds the term extends a match. -/
theorem exists_match? (h : Extends c s) (hx : x.bind c = .term t) :
    ∃ a, x.match? t s = some a ∧ Extends c a := by
  cases x with
  | term u =>
    have hu : u = t := by simpa [bind] using hx
    exact ⟨s, by simp [match?, hu], h⟩
  | var v =>
    have hc : c.get? v = some t := by
      cases hc : c.get? v with
      | none => simp [bind, hc] at hx
      | some u => simpa [bind, hc] using hx
    cases hs : s.get? v with
    | some u =>
      have hu : u = t := by simpa [h v u hs] using hc
      exact ⟨s, by simp [match?, hs, hu], h⟩
    | none =>
      refine ⟨s.insert v t, by simp [match?, hs], fun w u hw => ?_⟩
      rw [get?_insert] at hw
      split at hw
      · rename_i hwv
        rw [hwv, hc, hw]
      · exact h w u hw

/-- What has been filled in makes no difference to a match that knows it. -/
theorem bind_match? (x : Slot) (t : Term) (h : Extends c s) : (x.bind s).match? t c = x.match? t c := by
  cases x with
  | term u => rfl
  | var v =>
    cases hs : s.get? v with
    | none => simp [bind, hs]
    | some u => simp [bind, hs, match?, h v u hs]

end Slot

namespace IriSlot

variable {x : IriSlot} {i : Iri}

/-- The slot for any terms that has the same in it. -/
def toSlot : IriSlot → Slot
  | .var v => .var v
  | .iri i => .term (.iri i)

/-- A slot for IRIs has the variable of the slot. -/
@[simp] theorem var?_toSlot (x : IriSlot) : x.toSlot.var? = x.var? := by
  cases x <;> rfl

/-- A slot for IRIs matches what it matches as a slot. -/
theorem match?_eq_toSlot (x : IriSlot) (i : Iri) (s : Solution) :
    x.match? i s = x.toSlot.match? (.iri i) s := by
  cases x with
  | var v => rfl
  | iri j => by_cases h : j = i <;> simp [match?, toSlot, Slot.match?, h]

/-- A slot for IRIs becomes an IRI if it does so as a slot. -/
theorem bind_eq_iri_iff : x.bind s = .iri i ↔ x.toSlot.bind s = .term (.iri i) := by
  cases x with
  | iri j => simp [bind, toSlot, Slot.bind]
  | var v =>
    simp only [bind, toSlot, Slot.bind]
    cases hs : s.get? v with
    | none => simp
    | some u => cases u <;> simp

/-- What has been filled in makes no difference to a match that knows it. -/
theorem bind_match? (x : IriSlot) (i : Iri) (h : Extends c s) : (x.bind s).match? i c = x.match? i c := by
  cases x with
  | iri j => rfl
  | var v =>
    cases hs : s.get? v with
    | none => simp [bind, hs]
    | some u =>
      cases u with
      | iri j => simp [bind, hs, match?, Slot.match?, h v _ hs]
      | blank b => simp [bind, hs]
      | literal l => simp [bind, hs]

end IriSlot

namespace TriplePattern

variable {p : TriplePattern} {t : Triple}

/-- The variables of a pattern are those of its three slots. -/
theorem mem_vars :
    v ∈ p.vars ↔ p.subject.var? = some v ∨ p.predicate.var? = some v ∨ p.object.var? = some v := by
  have hf : ∀ (xs vs : List Variable),
      v ∈ xs.foldl (fun vs v => if vs.contains v then vs else vs ++ [v]) vs ↔ v ∈ vs ∨ v ∈ xs := by
    intro xs
    induction xs with
    | nil => simp
    | cons x xs ih =>
      intro vs
      rw [List.foldl_cons, ih, List.mem_cons]
      split
      · rename_i hx
        have hx : x ∈ vs := by simpa using hx
        constructor
        · rintro (h | h)
          · exact .inl h
          · exact .inr (.inr h)
        · rintro (h | rfl | h)
          · exact .inl h
          · exact .inl hx
          · exact .inr h
      · rw [List.mem_append, List.mem_singleton, or_assoc]
  rw [vars, hf, List.reduceOption_mem_iff]
  simp only [List.not_mem_nil, false_or, List.mem_cons, or_false, eq_comm (a := some v)]

/-- Matches the slots one after another, going on from a solution. -/
def matchFrom? (p : TriplePattern) (t : Triple) (s : Solution) : Option Solution :=
  (p.subject.match? t.subject.toTerm s).bind fun s =>
    (p.predicate.match? t.predicate s).bind fun s => p.object.match? t.object s

/-- Matching from a solution is merging it with a match. -/
theorem match?_bind_merge? (p : TriplePattern) (t : Triple) (s : Solution) :
    (p.match? t).bind s.merge? = p.matchFrom? t s := by
  have hp : ∀ a, (p.predicate.match? t.predicate a).bind s.merge? =
      (s.merge? a).bind (p.predicate.match? t.predicate) := by
    intro a
    have he : p.predicate.match? t.predicate = p.predicate.toSlot.match? (.iri t.predicate) :=
      funext (IriSlot.match?_eq_toSlot _ _)
    rw [he]
    exact Slot.match?_bind_merge? _ _ s a
  have ho : ∀ a, (p.object.match? t.object a).bind s.merge? = (s.merge? a).bind (p.object.match? t.object) :=
    Slot.match?_bind_merge? _ _ s
  have hs := Slot.match?_bind_merge? p.subject t.subject.toTerm s .empty
  rw [merge?_empty, Option.bind_some] at hs
  unfold match? matchFrom?
  rw [← hs, Option.bind_assoc, Option.bind_assoc]
  refine Option.bind_congr fun a _ => ?_
  rw [← Option.bind_assoc, ← hp, Option.bind_assoc, Option.bind_assoc]
  exact Option.bind_congr fun b _ => ho b

/-- A pattern that has become a triple has all its variables bound. -/
theorem binds_of_bind_eq (h : p.bind m = ofTriple t) (hv : v ∈ p.vars) : m.binds v = true := by
  simp only [bind, ofTriple, TriplePattern.mk.injEq] at h
  obtain ⟨hs, hp, ho⟩ := h
  rw [IriSlot.bind_eq_iri_iff] at hp
  rw [mem_vars, ← IriSlot.var?_toSlot] at hv
  rcases hv with hv | hv | hv
  · exact Slot.binds_of_bind_eq hs hv
  · exact Slot.binds_of_bind_eq hp hv
  · exact Slot.binds_of_bind_eq ho hv

/-- A solution that makes the pattern a triple extends a match from each of its parts. -/
theorem exists_matchFrom? (hcs : Extends c s) (h : p.bind c = ofTriple t) :
    ∃ m, p.matchFrom? t s = some m ∧ Extends c m := by
  simp only [bind, ofTriple, TriplePattern.mk.injEq] at h
  obtain ⟨hs, hp, ho⟩ := h
  obtain ⟨a, ha, hca⟩ := Slot.exists_match? hcs hs
  obtain ⟨b, hb, hcb⟩ := Slot.exists_match? hca (IriSlot.bind_eq_iri_iff.1 hp)
  obtain ⟨m, hm, hcm⟩ := Slot.exists_match? hcb ho
  rw [← IriSlot.match?_eq_toSlot] at hb
  exact ⟨m, by rw [matchFrom?, ha, Option.bind_some, hb, Option.bind_some, hm], hcm⟩

/-- A triple that a pattern becomes with a row put in matches the pattern, by bindings of this row. -/
theorem exists_match? (h : p.bind c = ofTriple t) : ∃ m, p.match? t = some m ∧ Extends c m :=
  exists_matchFrom? (fun v t h => by simp at h) h

/-- A match from a solution is the one that makes the pattern the triple, extends the solution and binds no
variable but those of the pattern. -/
theorem matchFrom?_eq_some_iff :
    p.matchFrom? t s = some c ↔
      p.bind c = ofTriple t ∧ Extends c s ∧ ∀ v, c.binds v = true → s.binds v = true ∨ v ∈ p.vars := by
  have hsound : ∀ {c}, p.matchFrom? t s = some c →
      p.bind c = ofTriple t ∧ Extends c s ∧ ∀ v, c.binds v = true → s.binds v = true ∨ v ∈ p.vars := by
    intro c h
    obtain ⟨a, ha, h⟩ := Option.bind_eq_some_iff.1 h
    obtain ⟨b, hb, hc⟩ := Option.bind_eq_some_iff.1 h
    rw [IriSlot.match?_eq_toSlot] at hb
    obtain ⟨ha, has, hva⟩ := Slot.match?_eq_some_iff.1 ha
    obtain ⟨hb, hba, hvb⟩ := Slot.match?_eq_some_iff.1 hb
    obtain ⟨hc, hcb, hvc⟩ := Slot.match?_eq_some_iff.1 hc
    refine ⟨?_, (hcb.trans hba).trans has, ?_⟩
    · have hsc := Slot.bind_of_extends (hcb.trans hba) ha
      have hpc := IriSlot.bind_eq_iri_iff.2 (Slot.bind_of_extends hcb hb)
      simp only [bind, ofTriple, hsc, hpc, hc]
    · intro v hv
      rw [mem_vars]
      rw [IriSlot.var?_toSlot] at hvb
      rcases hvc v hv with hv | hv
      · rcases hvb v hv with hv | hv
        · exact (hva v hv).imp id .inl
        · exact .inr (.inr (.inl hv))
      · exact .inr (.inr (.inr hv))
  constructor
  · exact hsound
  · rintro ⟨hp, hcs, hv⟩
    obtain ⟨m, he, hcm⟩ := exists_matchFrom? hcs hp
    obtain ⟨hpm, hms, -⟩ := hsound he
    have hbind : ∀ v, c.binds v = true → m.binds v = true := by
      intro v hcv
      rcases hv v hcv with hs | hp
      · exact hms.binds hs
      · exact binds_of_bind_eq hpm hp
    rw [he, hcm.eq hbind]

/-- A match is the solution that binds the variables of the pattern and makes it the triple. -/
theorem match?_eq_some_iff :
    p.match? t = some m ↔ p.bind m = ofTriple t ∧ ∀ v, m.binds v = true ↔ v ∈ p.vars := by
  have he : p.match? t = p.matchFrom? t .empty := rfl
  rw [he, matchFrom?_eq_some_iff]
  constructor
  · rintro ⟨hp, -, hv⟩
    refine ⟨hp, fun v => ⟨fun hm => ?_, binds_of_bind_eq hp⟩⟩
    rcases hv v hm with h | h
    · simp [binds] at h
    · exact h
  · rintro ⟨hp, hv⟩
    exact ⟨hp, fun v t h => by simp at h, fun v h => .inr ((hv v).1 h)⟩

/-- Filling in bindings before a match changes nothing once the match is merged with them. -/
theorem bind_match?_bind_merge? (p : TriplePattern) (t : Triple) (s : Solution) :
    ((p.bind s).match? t).bind s.merge? = (p.match? t).bind s.merge? := by
  rw [match?_bind_merge?, match?_bind_merge?]
  unfold matchFrom? bind
  rw [Slot.bind_match? _ _ (Extends.refl s)]
  refine Option.bind_congr fun a ha => ?_
  have has : Extends a s := (Slot.match?_eq_some_iff.1 ha).2.1
  rw [IriSlot.bind_match? _ _ has]
  refine Option.bind_congr fun b hb => ?_
  rw [IriSlot.match?_eq_toSlot] at hb
  have hba : Extends b a := (Slot.match?_eq_some_iff.1 hb).2.1
  exact Slot.bind_match? _ _ (hba.trans has)

/-- A pattern is bound if it has a term at each place. -/
theorem isBound_iff_exists : p.isBound = true ↔ ∃ x i y, p = ⟨.term x, .iri i, .term y⟩ := by
  obtain ⟨x, i, y⟩ := p
  cases x <;> cases i <;> cases y <;>
    simp [isBound, boundSlots, Slot.var?, IriSlot.var?]

/-- A pattern is bound if it has no variables. -/
theorem isBound_iff : p.isBound = true ↔ ∀ v, v ∉ p.vars := by
  rw [isBound_iff_exists]
  simp only [mem_vars]
  constructor
  · rintro ⟨x, i, y, rfl⟩
    simp [Slot.var?, IriSlot.var?]
  · intro h
    obtain ⟨x, i, y⟩ := p
    cases x with
    | var v => exact absurd (.inl rfl) (h v)
    | term x =>
      cases i with
      | var v => exact absurd (.inr (.inl rfl)) (h v)
      | iri i =>
        cases y with
        | var v => exact absurd (.inr (.inr rfl)) (h v)
        | term y => exact ⟨x, i, y, rfl⟩

/-- A pattern without variables is matched by the triple that it is, and nothing is bound. -/
theorem match?_of_isBound (h : p.isBound = true) :
    p.match? t = if p = ofTriple t then some .empty else none := by
  obtain ⟨x, i, y, rfl⟩ := isBound_iff_exists.1 h
  simp only [match?, ofTriple, Slot.match?, IriSlot.match?, TriplePattern.mk.injEq, Slot.term.injEq,
    IriSlot.iri.injEq]
  by_cases hx : x = t.subject.toTerm <;> by_cases hi : i = t.predicate <;> by_cases hy : y = t.object <;>
    simp [hx, hi, hy]

/-- The triple of a pattern is the one that it is. -/
theorem toTriple?_eq_some_iff : p.toTriple? = some t ↔ p = ofTriple t := by
  obtain ⟨x, i, y⟩ := p
  obtain ⟨s, j, o⟩ := t
  cases x with
  | var v => simp [toTriple?, ofTriple]
  | term x =>
    cases i with
    | var v => simp [toTriple?, ofTriple]
    | iri i =>
      cases y with
      | var v => simp [toTriple?, ofTriple]
      | term y =>
        simp only [toTriple?, ofTriple, Option.map_eq_some_iff, Triple.mk.injEq, TriplePattern.mk.injEq,
          Slot.term.injEq, IriSlot.iri.injEq]
        constructor
        · rintro ⟨r, hr, rfl, rfl, rfl⟩
          exact ⟨Term.toResource?_eq_some_iff.1 hr, rfl, rfl⟩
        · rintro ⟨rfl, rfl, rfl⟩
          exact ⟨s, Term.toResource?_toTerm s, rfl, rfl, rfl⟩

/-- Different triples are different patterns. -/
theorem ofTriple_injective {t u : Triple} (h : ofTriple t = ofTriple u) : t = u := by
  have ht : (ofTriple u).toTriple? = some t := toTriple?_eq_some_iff.2 h.symm
  have hu : (ofTriple u).toTriple? = some u := toTriple?_eq_some_iff.2 rfl
  rw [ht] at hu
  exact Option.some.inj hu

/-- The pattern of a triple is bound. -/
theorem isBound_ofTriple (t : Triple) : (ofTriple t).isBound = true :=
  isBound_iff_exists.2 ⟨_, _, _, rfl⟩

/-- A triple matches if there is a match. -/
theorem isMatch_iff : p.isMatch t = true ↔ ∃ m, p.match? t = some m := by
  rw [isMatch_eq, Option.isSome_iff_exists]

/-- A row is merged with a match of what is left of a pattern as with a match of the whole: both give the one row that
makes the pattern the triple, extends the given row and binds besides only variables of the pattern. Where no variable is
left, that is the row itself. -/
theorem match?_after_bind (m : Solution) (p : TriplePattern) (t : Triple) :
    ((p.bind m).match? t).bind m.merge? = (p.match? t).bind m.merge? ∧
    (∀ c, (p.match? t).bind m.merge? = some c ↔
      p.bind c = ofTriple t ∧ Extends c m ∧ ∀ v, c.binds v = true → m.binds v = true ∨ v ∈ p.vars) ∧
    ((p.bind m).isBound = true →
      ((p.bind m).match? t).bind m.merge? = if p.bind m = ofTriple t then some m else none) := by
  refine ⟨bind_match?_bind_merge? p t m, fun c => ?_, fun hbound => ?_⟩
  · rw [match?_bind_merge?, matchFrom?_eq_some_iff]
  · rw [match?_of_isBound hbound]
    split
    · exact merge?_empty m
    · rfl

/-- A predicate that a row binds to a literal is not filled in, and nothing matches it. -/
example :
    let p : TriplePattern := ⟨.var ⟨"s"⟩, .var ⟨"p"⟩, .var ⟨"s"⟩⟩
    let m := Solution.empty.insert ⟨"p"⟩ (.literal (.string "q"))
    let t : Triple := ⟨.iri ⟨"a"⟩, ⟨"q"⟩, .iri ⟨"a"⟩⟩
    p.bind m = p ∧ (p.match? t).isSome = true ∧ ((p.bind m).match? t).bind m.merge? = none := by
  decide

end TriplePattern

end SparqlAlgebra

import SparqlAlgebra.Proofs.Number.Compare
import SparqlAlgebra.Value.Literal

/-!
# Comparison and equality agree

Two terms that can be compared are equal if and only if neither is less than the other one. The only exception are texts
in a natural language: the case of a language tag does not matter to their order, but they are equal only if they are
the same term. Exchanging the terms reverses their order and makes no difference to their equality.
-/

namespace SparqlAlgebra

/-! ## Exchanging the operands -/

namespace NumericPair

/-- The pair the other way round. -/
def swap : NumericPair → NumericPair
  | .integer a b => .integer b a
  | .decimal a b => .decimal b a
  | .single a b => .single b a
  | .double a b => .double b a

end NumericPair

namespace Numeric

/-- Which type two numbers are promoted to does not depend on which one comes first. -/
theorem promote_swap (x y : Numeric) : promote y x = (promote x y).swap := by
  cases x <;> cases y <;> rfl

/-- Numbers compared the other way round give the opposite ordering. -/
theorem compare?_swap (x y : Numeric) : compare? y x = (compare? x y).map Ordering.swap := by
  rw [compare?, compare?, promote_swap x y]
  cases promote x y with
  | integer a b => exact congrArg some Std.OrientedOrd.eq_swap
  | decimal a b => exact congrArg some Std.OrientedOrd.eq_swap
  | single a b => exact Binary.compare?_swap a b
  | double a b => exact Binary.compare?_swap a b

end Numeric

/-- Whether languages are the same does not depend on the order. -/
theorem sameLanguage_comm (l m : String) : sameLanguage m l = sameLanguage l m := BEq.comm

/-- Texts compared the other way round give the opposite ordering. -/
theorem compareText_swap (s t : String) : compareText t s = (compareText s t).swap := by
  rw [compareText_eq, compareText_eq]
  exact Std.OrientedOrd.eq_swap

/-- Only equal texts compare as equal. -/
theorem compareText_eq_iff {s t : String} : compareText s t = .eq ↔ s = t := by
  rw [compareText_eq, compare_eq_iff_eq]

/-- Moments compared the other way round give the opposite ordering. -/
theorem Moment.compare?_swap (x y : Moment) : compare? y x = (compare? x y).map Ordering.swap := by
  unfold compare?
  cases x.offset with
  | some _ =>
    cases y.offset with
    | some _ => exact congrArg some Std.OrientedOrd.eq_swap
    | none => rfl
  | none =>
    cases y.offset with
    | some _ =>
      cases compareToLocal? y.seconds x.seconds with
      | none => rfl
      | some o => exact congrArg some o.swap_swap.symm
    | none => exact congrArg some Std.OrientedOrd.eq_swap

/-- What is equal in an order is so the other way round as well. -/
theorem Ordering.map_swap_eq_some_eq_iff {o : Option Ordering} :
    o.map Ordering.swap = some .eq ↔ o = some .eq := by
  rcases o with _ | _ | _ | _ <;> decide

namespace LiteralValue

variable {v w : LiteralValue}

/-- Values compared the other way round give the opposite ordering, or none as before. -/
theorem compare?_swap (v w : LiteralValue) : compare? w v = (compare? v w).map Ordering.swap := by
  cases v with
  | number a =>
    cases w with
    | number b => exact a.compare?_swap b
    | _ => rfl
  | truth a =>
    cases w with
    | truth b => exact congrArg some Std.OrientedOrd.eq_swap
    | _ => rfl
  | text a =>
    cases w with
    | text b => exact congrArg some (compareText_swap a b)
    | _ => rfl
  | taggedText a l =>
    cases w with
    | taggedText b m =>
      rw [compare?, compare?, sameLanguage_comm l m, compareText_swap a b]
      cases sameLanguage l m <;> rfl
    | _ => rfl
  | moment a =>
    cases w with
    | moment b => exact a.compare?_swap b
    | _ => rfl
  | unknown => cases w <;> rfl

/-- Equality of values is symmetric. -/
theorem equal?_comm (v w : LiteralValue) : equal? w v = equal? v w := by
  cases v with
  | number a =>
    cases w with
    | number b =>
      refine congrArg some (Bool.eq_iff_iff.2 ?_)
      rw [Numeric.equal, Numeric.equal, beq_iff_eq, beq_iff_eq, a.compare?_swap b, Ordering.map_swap_eq_some_eq_iff]
    | _ => rfl
  | truth a =>
    cases w with
    | truth b => exact congrArg some (Bool.beq_comm)
    | _ => rfl
  | moment a =>
    cases w with
    | moment b =>
      refine congrArg some (Bool.eq_iff_iff.2 ?_)
      rw [beq_iff_eq, beq_iff_eq, a.compare?_swap b, Ordering.map_swap_eq_some_eq_iff]
    | _ => rfl
  | _ => cases w <;> rfl

/-- Whether both are texts in the same natural language, and the same text. -/
def sameTagged : LiteralValue → LiteralValue → Bool
  | .taggedText s l, .taggedText t m => sameLanguage l m && s == t
  | _, _ => false

/-- Values that differ at most in the case of a tag compare as equal. -/
theorem compare?_of_sameTagged (h : sameTagged v w = true) : compare? v w = some .eq := by
  unfold sameTagged at h
  split at h
  · rw [Bool.and_eq_true, beq_iff_eq] at h
    rw [compare?, if_pos h.1, h.2, compareText_eq_iff.2 rfl]
  · cases h

/-- Values that can be compared are equal if neither is less than the other one, unless they are texts. -/
theorem equal?_of_compare? {o : Ordering} (h : compare? v w = some o) :
    (equal? v w = some (o == .eq) ∧ sameTagged v w = false) ∨ (∃ s t, v = .text s ∧ w = .text t ∧ o = compareText s t) ∨
      ∃ s l t m, v = .taggedText s l ∧ w = .taggedText t m ∧ sameLanguage l m = true ∧ o = compareText s t := by
  cases v with
  | number a =>
    cases w with
    | number b =>
      refine .inl ⟨?_, rfl⟩
      rw [equal?, Numeric.equal, show a.compare? b = some o from h]
      rfl
    | _ => cases h
  | truth a =>
    cases w with
    | truth b =>
      obtain rfl := Option.some.inj h
      refine .inl ⟨?_, rfl⟩
      revert a b
      decide
    | _ => cases h
  | text s =>
    cases w with
    | text t => exact .inr (.inl ⟨s, t, rfl, rfl, (Option.some.inj h).symm⟩)
    | _ => cases h
  | taggedText s l =>
    cases w with
    | taggedText t m =>
      rw [compare?, Option.ite_none_right_eq_some, Option.some.injEq] at h
      exact .inr (.inr ⟨s, l, t, m, rfl, rfl, h.1, h.2.symm⟩)
    | _ => cases h
  | moment a =>
    cases w with
    | moment b =>
      refine .inl ⟨?_, rfl⟩
      rw [equal?, show a.compare? b = some o from h]
      rfl
    | _ => cases h
  | unknown => cases h

end LiteralValue

namespace Literal

/-- A literal that stands for a text in no language is determined by it. -/
theorem eq_of_value_eq_text {a : Literal} {s : String} (h : a.value = .text s) : a = .typed s Xsd.string := by
  have hread : ∀ {α : Type} {f : α → LiteralValue} {x : Option α}, (∀ v, f v ≠ .text s) →
      (x.map f).getD .unknown ≠ .text s := by
    intro α f x hf
    cases x with
    | none => exact nofun
    | some v => exact hf v
  unfold value at h
  dsimp only at h
  split_ifs at h with hstring
  · cases a with
    | typed t d =>
      obtain rfl : d = Xsd.string := hstring
      obtain rfl : t = s := LiteralValue.text.inj h
      rfl
    | tagged t l =>
      have hne : rdfLangString ≠ Xsd.string := by decide
      exact absurd hstring hne
  · exact absurd h (hread fun _ => nofun)
  · exact absurd h (hread fun _ => nofun)
  · exact absurd h (hread fun _ => nofun)

end Literal

namespace Term

/-- Whether two terms are different texts in a natural language that differ in nothing but the case of the tag. -/
def differInTag : Term → Term → Bool
  | .literal a, .literal b => a != b && a.value.sameTagged b.value
  | _, _ => false

variable {a b : Term} {o : Ordering}

/-- Terms compared the other way round give the opposite ordering, or none as before. -/
theorem compare?_swap (a b : Term) : compare? b a = (compare? a b).map Ordering.swap := by
  cases a with
  | literal l =>
    cases b with
    | literal m => exact LiteralValue.compare?_swap l.value m.value
    | _ => rfl
  | _ => cases b <;> rfl

/-- Equality of terms is symmetric. -/
theorem equal?_comm (a b : Term) : equal? b a = equal? a b := by
  unfold equal?
  by_cases h : a = b
  · rw [if_pos h, if_pos h.symm]
  · rw [if_neg h, if_neg (Ne.symm h)]
    cases a with
    | literal l =>
      cases b with
      | literal m => exact LiteralValue.equal?_comm l.value m.value
      | _ => rfl
    | _ => cases b <;> rfl

/-- A term that can be compared with itself is neither less nor greater. -/
theorem eq_of_compare?_self (h : compare? a a = some o) : o = .eq := by
  have hswap := compare?_swap a a
  rw [h, Option.map_some, Option.some.injEq] at hswap
  revert hswap
  cases o <;> decide

/-- No term differs from itself in its tag. -/
theorem differInTag_self (a : Term) : a.differInTag a = false := by
  cases a <;> simp [differInTag]

/-- Terms that differ only in the case of a tag are in no order. -/
theorem compare?_of_differInTag (h : a.differInTag b = true) : compare? a b = some .eq := by
  cases a with
  | literal l =>
    cases b with
    | literal m =>
      rw [differInTag, Bool.and_eq_true] at h
      exact LiteralValue.compare?_of_sameTagged h.2
    | _ => cases h
  | _ => cases h

/-- If two terms can be compared, they are equal if neither is less than the other one and not just a tag is different. -/
theorem equal?_of_compare? (h : compare? a b = some o) : equal? a b = some (o == .eq && !a.differInTag b) := by
  by_cases hab : a = b
  · obtain rfl := hab
    unfold equal?
    rw [if_pos rfl, eq_of_compare?_self h, differInTag_self]
    rfl
  cases a with
  | literal l =>
    cases b with
    | literal m =>
      have hne : l ≠ m := fun hlm => hab (congrArg Term.literal hlm)
      have hdiffer : differInTag (.literal l) (.literal m) = l.value.sameTagged m.value := by
        rw [differInTag, bne_iff_ne.2 hne, Bool.true_and]
      rw [equal?, if_neg hab, hdiffer]
      rcases LiteralValue.equal?_of_compare? h with ⟨hequal, htag⟩ | ⟨s, t, hl, hm, rfl⟩ | ⟨s, k, t, n, hl, hm, hsame, rfl⟩
      · rw [hequal, htag, Bool.not_false, Bool.and_true]
      · have hst : compareText s t ≠ .eq := by
          intro heq
          rw [compareText_eq_iff] at heq
          rw [Literal.eq_of_value_eq_text hl, Literal.eq_of_value_eq_text hm, heq] at hne
          exact hne rfl
        rw [hl, hm, beq_eq_false_iff_ne.2 hst]
        rfl
      · have htext : (compareText s t == .eq) = (s == t) :=
          Bool.eq_iff_iff.2 (by rw [beq_iff_eq, beq_iff_eq, compareText_eq_iff])
        rw [hl, hm, htext, LiteralValue.sameTagged, hsame, Bool.true_and, Bool.and_not_self]
        rfl
    | _ => cases h
  | _ => cases h

end Term

end SparqlAlgebra

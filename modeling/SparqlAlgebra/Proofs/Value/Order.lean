import Mathlib.Data.Prod.Lex
import Mathlib.Data.Rat.Floor
import Mathlib.Data.String.Basic
import Mathlib.Tactic.Ring
import Mathlib.Algebra.Order.Field.Power
import SparqlAlgebra.Value.Order

/-!
# Terms are totally ordered

Every term has a place in a linear order of tuples, no two terms have the same place, and terms are compared as their
places are. The place of a literal begins with the kind and the value that it is sorted by, a number being its exact
rational value between the infinities and the not-a-numbers.
-/

namespace SparqlAlgebra

/-- The comparison of pairs looks at the second parts if the first ones are equal. -/
theorem compare_toLex {α β : Type} [LinearOrder α] [LinearOrder β] (a c : α) (b d : β) :
    compare (toLex (a, b)) (toLex (c, d)) = (compare a c).then (compare b d) := by
  rw [Prod.Lex.compare_def]
  rfl

/-- Comparisons agree if the strict orders do. -/
theorem compare_congr {α β : Type} [LinearOrder α] [LinearOrder β] {a b : α} {c d : β} (hlt : a < b ↔ c < d)
    (hgt : b < a ↔ d < c) : compare a b = compare c d := by
  rcases lt_trichotomy c d with h | h | h
  · rw [compare_lt_iff_lt.2 h, compare_lt_iff_lt.2 (hlt.2 h)]
  · have hle : ¬ a < b ∧ ¬ b < a := by
      rw [hlt, hgt, h]
      exact ⟨lt_irrefl d, lt_irrefl d⟩
    have heq : a = b := le_antisymm (not_lt.1 hle.2) (not_lt.1 hle.1)
    rw [compare_eq_iff_eq.2 h, compare_eq_iff_eq.2 heq]
  · rw [compare_gt_iff_gt.2 h, compare_gt_iff_gt.2 (hgt.2 h)]

/-- Texts are compared as in the library. -/
theorem compareText_eq (a b : String) : compareText a b = compare a b :=
  (LinearOrder.compare_eq_compareOfLessAndEq a b).symm

namespace Binary

variable {fmt : BinaryFormat}

/-- The exact value of a finite number. -/
def rational (s : Bool) (m : Nat) (e : Int) : ℚ := (if s then -(m : ℚ) else m) * 2 ^ e

/-- Scaling to a base below the exponent is division by its power of two. -/
theorem scaled_eq {s : Bool} {m : Nat} {e base : Int} (h : base ≤ e) :
    (scaled s m e base : ℚ) = rational s m e * 2 ^ (-base) := by
  have hexp : ((e - base).toNat : ℤ) = e + -base := by omega
  have hpow : (2 : ℚ) ^ (e - base).toNat = 2 ^ e * 2 ^ (-base) := by
    rw [← zpow_natCast, hexp, zpow_add₀ two_ne_zero]
  have hnat : ((Nat.pow 2 (e - base).toNat : ℕ) : ℚ) = 2 ^ e * 2 ^ (-base) := by
    rw [← hpow]
    exact Nat.cast_pow 2 _
  unfold scaled rational
  cases s with
  | false =>
    simp only [Bool.false_eq_true, if_false, Int.cast_mul, Int.cast_natCast, hnat]
    ring
  | true =>
    simp only [if_true, Int.cast_neg, Int.cast_mul, Int.cast_natCast, hnat]
    ring

/-- Finite numbers are compared by their values. -/
theorem compareFinite_eq (s : Bool) (m : Nat) (e : Int) (t : Bool) (n : Nat) (f : Int) :
    compareFinite s m e t n f = compare (rational s m e) (rational t n f) := by
  have hpos : (0 : ℚ) < 2 ^ (-min e f) := zpow_pos two_pos _
  have hcast : compare (scaled s m e (min e f)) (scaled t n f (min e f)) =
      compare (scaled s m e (min e f) : ℚ) (scaled t n f (min e f) : ℚ) :=
    compare_congr Int.cast_lt.symm Int.cast_lt.symm
  have hscale : ∀ x y : ℚ, compare (x * 2 ^ (-min e f)) (y * 2 ^ (-min e f)) = compare x y :=
    fun x y => compare_congr (mul_lt_mul_iff_left₀ hpos) (mul_lt_mul_iff_left₀ hpos)
  rw [compareFinite, hcast, scaled_eq (min_le_left e f), scaled_eq (min_le_right e f), hscale]

/-- The value of a finite number, and zero for what is told apart by its class. -/
def finiteValue : Binary fmt → ℚ
  | .finite s m e => rational s m e
  | _ => 0

/-- A sign tells two numbers of the same value apart. -/
def signRank : Binary fmt → ℕ
  | .finite false .. => 1
  | _ => 0

/-- The total order looks at the kind first, then at the value, then at the sign of zeros. -/
theorem totalCompare_eq (x y : Binary fmt) :
    totalCompare x y = (compare x.totalRank y.totalRank).then
      ((compare x.finiteValue y.finiteValue).then (compare x.signRank y.signRank)) := by
  cases x with
  | finite s m e =>
    cases y with
    | finite t n f =>
      rw [totalCompare, compareFinite_eq]
      cases s <;> cases t <;> rfl
    | nan t => cases t <;> rfl
    | infinite t => cases t <;> rfl
  | nan s =>
    cases y with
    | finite t n f => cases s <;> rfl
    | nan t => cases s <;> cases t <;> rfl
    | infinite t => cases s <;> cases t <;> rfl
  | infinite s =>
    cases y with
    | finite t n f => cases s <;> rfl
    | nan t => cases s <;> cases t <;> rfl
    | infinite t => cases s <;> cases t <;> rfl

end Binary

/-! ## Places -/

/-- What literals of one kind are sorted by: a class, a number, a sign and two texts. -/
abbrev ValuePlace := ℕ ×ₗ ℚ ×ₗ ℕ ×ₗ String ×ₗ String

/-- What a literal is sorted by: its kind, its value, its datatype, its text, and its language if it has one. -/
abbrev LiteralPlace := ℕ ×ₗ ValuePlace ×ₗ String ×ₗ String ×ₗ ℕ ×ₗ String

/-- What a term is sorted by: its kind, its text, and its place among the literals. -/
abbrev TermPlace := ℕ ×ₗ String ×ₗ LiteralPlace

namespace OrderKey

/-- The place of a key among the values of its group. -/
def place : OrderKey → ValuePlace
  | .number x => toLex (x.totalRank, toLex (x.finiteValue, toLex (x.signRank, toLex ("", ""))))
  | .truth b => toLex (b.toNat, toLex (0, toLex (0, toLex ("", ""))))
  | .text s => toLex (0, toLex (0, toLex (0, toLex (s, ""))))
  | .taggedText s l => toLex (0, toLex (0, toLex (0, toLex (s, l))))
  | .moment t => toLex (0, toLex (t.seconds.units, toLex (0, toLex ("", ""))))
  | .other => toLex (0, toLex (0, toLex (0, toLex ("", ""))))

/-- Sort keys of one group are compared as their places are. -/
theorem orderValues_eq {v w : LiteralValue} (h : (ofValue v).group = (ofValue w).group) :
    (ofValue v).orderValues (ofValue w) = compare (ofValue v).place (ofValue w).place := by
  have htruth : ∀ a b : Bool, compare a b = compare a.toNat b.toNat := by decide
  have hunits : ∀ a b : Int, compare a b = compare (a : ℚ) (b : ℚ) :=
    fun a b => compare_congr Int.cast_lt.symm Int.cast_lt.symm
  cases v with
  | number a =>
    cases w with
    | number b => simp [ofValue, orderValues, place, compare_toLex, Double.order, Binary.totalCompare_eq]
    | _ => cases h
  | truth a =>
    cases w with
    | truth b => simp [ofValue, orderValues, place, compare_toLex, htruth]
    | _ => cases h
  | text a =>
    cases w with
    | text b => simp [ofValue, orderValues, place, compare_toLex, compareText_eq]
    | _ => cases h
  | taggedText a l =>
    cases w with
    | taggedText b m => simp [ofValue, orderValues, place, compare_toLex, compareText_eq]
    | _ => cases h
  | moment a =>
    cases w with
    | moment b => simp [ofValue, orderValues, place, compare_toLex, Moment.compare?, Moment.toUtc, hunits]
    | _ => cases h
  | unknown =>
    cases w with
    | unknown => simp [ofValue, orderValues, place]
    | _ => cases h

end OrderKey

/-- Absence comes before every text. -/
def languagePlace : Option String → ℕ ×ₗ String
  | none => toLex (0, "")
  | some l => toLex (1, l)

/-- Languages are compared by their places. -/
theorem compareOptionalText_eq (a b : Option String) :
    compareOptionalText a b = compare (languagePlace a) (languagePlace b) := by
  cases a <;> cases b <;> simp [compareOptionalText, languagePlace, compare_toLex, compareText_eq]
  · rfl
  · rfl

namespace Literal

/-- The place of a literal. -/
def place (l : Literal) : LiteralPlace :=
  toLex ((OrderKey.ofValue l.value).group, toLex ((OrderKey.ofValue l.value).place,
    toLex (l.datatype.text, toLex (l.text, languagePlace l.language?))))

/-- Literals are compared by their places. -/
theorem order_eq (a b : Literal) : a.order b = compare a.place b.place := by
  have hvalue : (compare (OrderKey.ofValue a.value).group (OrderKey.ofValue b.value).group).then
      ((OrderKey.ofValue a.value).orderValues (OrderKey.ofValue b.value)) =
        (compare (OrderKey.ofValue a.value).group (OrderKey.ofValue b.value).group).then
          (compare (OrderKey.ofValue a.value).place (OrderKey.ofValue b.value).place) := by
    by_cases hg : (OrderKey.ofValue a.value).group = (OrderKey.ofValue b.value).group
    · rw [OrderKey.orderValues_eq hg]
    · cases hc : compare (OrderKey.ofValue a.value).group (OrderKey.ofValue b.value).group with
      | eq => exact absurd (compare_eq_iff_eq.1 hc) hg
      | lt => rfl
      | gt => rfl
  simp only [place, compare_toLex]
  rw [← Ordering.then_assoc, ← hvalue, Ordering.then_assoc, ← compareText_eq, ← compareText_eq,
    ← compareOptionalText_eq]
  rfl

/-- Different literals have different places. -/
theorem place_injective (a b : Literal) (h : a.place = b.place) : a = b := by
  simp only [place, toLex_inj, Prod.mk.injEq] at h
  obtain ⟨-, -, hdatatype, htext, hlanguage⟩ := h
  cases a with
  | typed s d =>
    cases b with
    | typed t e =>
      obtain rfl : s = t := htext
      rw [show d = e from congrArg Iri.mk hdatatype]
    | tagged t m => simp [languagePlace, language?] at hlanguage
  | tagged s l =>
    cases b with
    | typed t e => simp [languagePlace, language?] at hlanguage
    | tagged t m =>
      obtain rfl : s = t := htext
      have hlm : l = m := by simpa [languagePlace, language?] using hlanguage
      rw [hlm]

end Literal

namespace Term

/-- The place of a term. -/
def place : Term → TermPlace
  | .blank b => toLex (0, toLex (b.label, (Literal.string "").place))
  | .iri i => toLex (1, toLex (i.text, (Literal.string "").place))
  | .literal l => toLex (2, toLex ("", l.place))

/-- Terms are compared as their places are. -/
theorem order_eq (a b : Term) : a.order b = compare a.place b.place := by
  cases a <;> cases b <;> simp [order, place, compare_toLex, compareText_eq, Literal.order_eq] <;> rfl

/-- Different terms have different places. -/
theorem place_injective (a b : Term) (h : a.place = b.place) : a = b := by
  cases a with
  | blank a =>
    cases b with
    | blank b =>
      have hlabel : a.label = b.label := by simpa [place] using h
      rw [show a = b from congrArg BlankNode.mk hlabel]
    | _ => simp [place] at h
  | iri a =>
    cases b with
    | iri b =>
      have htext : a.text = b.text := by simpa [place] using h
      rw [show a = b from congrArg Iri.mk htext]
    | _ => simp [place] at h
  | literal a =>
    cases b with
    | literal b =>
      have hplace : a.place = b.place := by simpa [place] using h
      rw [Literal.place_injective a b hplace]
    | _ => simp [place] at h

/-- The place of an optional term. Absence comes before every term. -/
def optionalPlace : Option Term → WithBot TermPlace
  | none => ⊥
  | some t => t.place

/-- Terms, or their absence, are compared by their places. -/
theorem orderOptional_eq (a b : Option Term) : orderOptional a b = compare (optionalPlace a) (optionalPlace b) := by
  cases a with
  | none =>
    cases b with
    | none => exact (compare_eq_iff_eq.2 rfl).symm
    | some t => exact (compare_lt_iff_lt.2 (WithBot.bot_lt_coe t.place)).symm
  | some s =>
    cases b with
    | none => exact (compare_gt_iff_gt.2 (WithBot.bot_lt_coe s.place)).symm
    | some t => exact (order_eq s t).trans (compare_congr WithBot.coe_lt_coe.symm WithBot.coe_lt_coe.symm)

/-- Different terms have different places, and absence has one of its own. -/
theorem optionalPlace_injective (a b : Option Term) (h : optionalPlace a = optionalPlace b) : a = b := by
  cases a with
  | none =>
    cases b with
    | none => rfl
    | some t => exact absurd h (WithBot.bot_ne_coe)
  | some s =>
    cases b with
    | none => exact absurd h (WithBot.coe_ne_bot)
    | some t => exact congrArg some (place_injective s t (WithBot.coe_injective h))

/-- Optional terms are in a linear order: swapping two of them reverses it, it is transitive, and only the same terms
are equal in it. -/
theorem orderOptional_isLinear (a b c : Option Term) :
    orderOptional b a = (orderOptional a b).swap ∧
      (orderOptional a b ≠ .gt → orderOptional b c ≠ .gt → orderOptional a c ≠ .gt) ∧
      (orderOptional a b = .eq ↔ a = b) := by
  simp only [orderOptional_eq]
  refine ⟨Std.OrientedOrd.eq_swap, fun hab hbc => ?_, ?_⟩
  · exact compare_le_iff_le.2 ((compare_le_iff_le.1 hab).trans (compare_le_iff_le.1 hbc))
  · rw [compare_eq_iff_eq]
    exact ⟨optionalPlace_injective a b, congrArg optionalPlace⟩

end Term

end SparqlAlgebra

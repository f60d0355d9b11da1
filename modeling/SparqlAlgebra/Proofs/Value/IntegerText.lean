import Mathlib.Algebra.Order.Ring.Int
import Mathlib.Data.List.TakeWhile
import SparqlAlgebra.Expression.Evaluate

/-!
# Texts of integers

An integer is spelled by at most one sign and at least one digit. The literals of the integer datatypes are read by this
rule up to the range of 64 bits, except that plus signs in front of a signed text are passed over. A literal that is not
read counts as a number nowhere: not in tests, truth values, comparisons or arithmetic.
-/

namespace SparqlAlgebra

/-- A number fits if it lies within 64 bits with a sign. -/
theorem fitsInt64_iff {i : Int} : fitsInt64 i = true ↔ -2 ^ 63 ≤ i ∧ i < 2 ^ 63 := by
  have hpow : ((Nat.pow 2 63 : Nat) : Int) = 2 ^ 63 := rfl
  rw [fitsInt64, hpow, Bool.and_eq_true, decide_eq_true_iff, decide_eq_true_iff]

/-- At least one digit, and nothing else. -/
def IsDigits (ds : List Char) : Prop := ds ≠ [] ∧ ∀ c ∈ ds, c.isDigit = true

/-- A text spells an integer: digits, with at most one sign in front of them. -/
inductive Spells : List Char → Int → Prop
  | unsigned {ds : List Char} : IsDigits ds → Spells ds (Nat.ofDigitChars 10 ds 0)
  | plus {ds : List Char} : IsDigits ds → Spells ('+' :: ds) (Nat.ofDigitChars 10 ds 0)
  | minus {ds : List Char} : IsDigits ds → Spells ('-' :: ds) (-Nat.ofDigitChars 10 ds 0)

/-- A text spells a natural number: digits, with at most one plus sign in front of them. -/
inductive SpellsNat : List Char → Nat → Prop
  | unsigned {ds : List Char} : IsDigits ds → SpellsNat ds (Nat.ofDigitChars 10 ds 0)
  | plus {ds : List Char} : IsDigits ds → SpellsNat ('+' :: ds) (Nat.ofDigitChars 10 ds 0)

/-- A text begins with a plus sign that another sign follows. -/
def HasSurplusSign (cs : List Char) : Prop := ∃ c ds, cs = '+' :: c :: ds ∧ (c = '+' ∨ c = '-')

variable {cs ds : List Char} {i : Int} {k : Nat} {s : String}

/-- Digits do not begin with a sign. -/
theorem IsDigits.ne_cons (h : IsDigits ds) {z : Char} (hz : z.isDigit = false) (r : List Char) : ds ≠ z :: r := by
  rintro rfl
  rw [h.2 z List.mem_cons_self] at hz
  cases hz

section Reading

/-- Digits are read as in the library. -/
theorem digitsValue_eq (ds : List Char) : Binary.digitsValue ds = Nat.ofDigitChars 10 ds 0 := by
  rw [Binary.digitsValue, Binary.digitsValueTo_eq]
  rfl

/-- Digits are digits only, and at least one. -/
theorem isDigits_iff : IsDigits ds ↔ ¬ (ds.isEmpty || !ds.all Char.isDigit) = true := by
  simp [IsDigits]

/-- What is read is a spelling of an integer of 64 bits. -/
theorem readInt64?_eq_some_iff : readInt64? cs = some i ↔ Spells cs i ∧ fitsInt64 i = true := by
  unfold readInt64?
  dsimp only
  rw [Option.ite_none_left_eq_some, ← isDigits_iff, Option.ite_none_right_eq_some, digitsValue_eq, Option.some.injEq]
  constructor
  · rintro ⟨hds, hfits, rfl⟩
    refine ⟨?_, hfits⟩
    split at hds
    · exact .minus hds
    · exact .plus hds
    · exact .unsigned hds
  · rintro ⟨h, hfits⟩
    cases h with
    | unsigned hds =>
      split
      · exact absurd rfl (hds.ne_cons rfl _)
      · exact absurd rfl (hds.ne_cons rfl _)
      · exact ⟨hds, hfits, rfl⟩
    | plus hds => exact ⟨hds, hfits, rfl⟩
    | minus hds => exact ⟨hds, hfits, rfl⟩

/-- What is read without a sign is a spelling of a natural number of 64 bits. -/
theorem readNat64?_eq_some_iff : readNat64? cs = some k ↔ SpellsNat cs k ∧ k < 2 ^ 64 := by
  unfold readNat64?
  dsimp only
  rw [Option.ite_none_left_eq_some, ← isDigits_iff, Option.ite_none_right_eq_some, digitsValue_eq, Option.some.injEq]
  constructor
  · rintro ⟨hds, hlt, rfl⟩
    refine ⟨?_, hlt⟩
    split at hds
    · exact .plus hds
    · exact .unsigned hds
  · rintro ⟨h, hlt⟩
    cases h with
    | unsigned hds =>
      split
      · exact absurd rfl (hds.ne_cons rfl _)
      · exact ⟨hds, hlt, rfl⟩
    | plus hds => exact ⟨hds, hlt, rfl⟩

/-- The decimal digits of a number spell it. -/
theorem spellsNat_toDigits (k : Nat) : SpellsNat (Nat.toDigits 10 k) k := by
  have hds : IsDigits (Nat.toDigits 10 k) :=
    ⟨Nat.toDigits_ne_nil, fun c hc => Nat.isDigit_of_mem_toDigits (by decide) (by decide) hc⟩
  have h := SpellsNat.unsigned hds
  rwa [Nat.ofDigitChars_ten_toDigits] at h

/-- No other character occurs in a spelling. -/
theorem SpellsNat.notMem (h : SpellsNat cs k) {z : Char} (hz : z.isDigit = false) (hplus : z ≠ '+') : z ∉ cs := by
  have hdigits : ∀ {ds : List Char}, IsDigits ds → z ∉ ds := by
    intro ds hds hmem
    rw [hds.2 z hmem] at hz
    cases hz
  cases h with
  | unsigned hds => exact hdigits hds
  | plus hds => exact List.not_mem_cons_of_ne_of_not_mem hplus (hdigits hds)

/-- Plus signs in front of what spells an integer are passed over, and with them one that belongs to the spelling. -/
theorem Spells.dropWhile (h : Spells cs i) (k : Nat) :
    Spells ((List.replicate k '+' ++ cs).dropWhile (· == '+')) i := by
  have hkeep : ∀ {ds : List Char}, IsDigits ds → ds.dropWhile (· == '+') = ds := by
    intro ds hds
    cases ds with
    | nil => rfl
    | cons d ds =>
      refine List.dropWhile_cons_of_neg fun hd => ?_
      rw [beq_iff_eq] at hd
      subst hd
      exact hds.ne_cons rfl ds rfl
  rw [List.dropWhile_append_of_pos (by simp)]
  cases h with
  | unsigned hds =>
    rw [hkeep hds]
    exact .unsigned hds
  | plus hds =>
    rw [List.dropWhile_cons_of_pos rfl, hkeep hds]
    exact .unsigned hds
  | minus hds => exact .minus hds

/-- An integer is read from any number of plus signs before a spelling, if it fits. -/
theorem Numeric.readInteger?_eq_some_iff : readInteger? s = some i ↔
    fitsInt64 i = true ∧ ∃ k cs, s.toList = List.replicate k '+' ++ cs ∧ Spells cs i := by
  rw [readInteger?, readInt64?_eq_some_iff]
  constructor
  · rintro ⟨h, hfits⟩
    refine ⟨hfits, (s.toList.takeWhile (· == '+')).length, _, ?_, h⟩
    have hplus : s.toList.takeWhile (· == '+') = List.replicate (s.toList.takeWhile (· == '+')).length '+' := by
      refine List.eq_replicate_of_mem fun c hc => ?_
      simpa using List.mem_takeWhile_imp hc
    rw [← hplus, List.takeWhile_append_dropWhile]
  · rintro ⟨hfits, k, cs, hs, h⟩
    rw [hs]
    exact ⟨h.dropWhile k, hfits⟩

/-- Nothing but a surplus sign keeps a text that is read from being a spelling. -/
theorem exists_spells_iff (h : ¬ HasSurplusSign ds) :
    (∃ k cs, ds = List.replicate k '+' ++ cs ∧ Spells cs i) ↔ Spells ds i := by
  constructor
  · rintro ⟨k, cs, rfl, hcs⟩
    match k with
    | 0 => exact hcs
    | 1 =>
      cases hcs with
      | unsigned hds => exact .plus hds
      | plus hds => exact absurd ⟨_, _, rfl, .inl rfl⟩ h
      | minus hds => exact absurd ⟨_, _, rfl, .inr rfl⟩ h
    | k + 2 => exact absurd ⟨_, _, rfl, .inl rfl⟩ h
  · exact fun hds => ⟨0, ds, rfl, hds⟩

end Reading

/-! ## Literals -/

namespace Literal

/-- A literal counts as a number nowhere. Its truth value is that of ill-formed numbers. -/
structure NoNumber (l : Literal) : Prop where
  /-- It is no number for `isNumeric`. -/
  isNumeric : Builtin.isNumeric.call [.literal l] = some (.ofBool false)
  /-- It counts as false. -/
  truth : Term.truth? (.literal l) = some false
  /-- It comes neither before nor after anything. -/
  compare : ∀ t, Term.compare? (.literal l) t = none ∧ Term.compare? t (.literal l) = none
  /-- It is neither equal nor unequal to another literal. -/
  equal : ∀ m, m ≠ l → Term.equal? (.literal l) (.literal m) = none ∧ Term.equal? (.literal m) (.literal l) = none
  /-- No operation takes it as an operand. -/
  arithmetic : ∀ (op : Arithmetic) t, op.apply (.literal l) t = none ∧ op.apply t (.literal l) = none
  /-- No sign can be put before it. -/
  sign : ∀ op : Sign, op.apply (.literal l) = none

/-- A literal of a numeric datatype that is not read counts as a number nowhere. -/
theorem noNumber_of_ofLiteral? {l : Literal} (hd : l.datatype.isNumericDatatype = true)
    (h : Numeric.ofLiteral? l = none) : l.NoNumber := by
  have hne : ∀ e : Iri, e.isNumericDatatype = false → l.datatype ≠ e := by
    rintro e he rfl
    rw [hd] at he
    cases he
  have hstring := hne Xsd.string (by decide)
  have htagged := hne rdfLangString (by decide)
  have hboolean := hne Xsd.boolean (by decide)
  have hmoment := hne Xsd.dateTime (by decide)
  have hvalue : l.value = .unknown := by simp [value, hstring, htagged, hboolean, hmoment, h]
  have hnumeric : (Term.literal l).numeric? = none := h
  constructor
  case isNumeric =>
    have hcall : Builtin.isNumeric.call [.literal l] = some (.ofBool (Term.literal l).numeric?.isSome) := rfl
    rw [hcall, hnumeric]
    rfl
  case truth => simp [Term.truth?, hstring, htagged, hboolean, h, hd]
  case compare =>
    intro t
    cases t with
    | literal m =>
      rw [Term.compare?, Term.compare?, hvalue]
      cases m.value <;> exact ⟨rfl, rfl⟩
    | _ => exact ⟨rfl, rfl⟩
  case equal =>
    intro m hm
    simp only [Term.equal?, Term.literal.injEq, hm, hm.symm, if_false, hvalue]
    cases m.value <;> exact ⟨rfl, rfl⟩
  case arithmetic =>
    intro op t
    cases op <;> simp [Arithmetic.apply, Builtin.onNumerics, hnumeric]
  case sign =>
    intro op
    cases op <;> simp [Sign.apply, Builtin.onNumeric, hnumeric]

end Literal

namespace Numeric

variable {d : Iri}

/-- A literal of an integer datatype has the integer that is read from its text, if any. -/
theorem ofLiteral?_of_integer {l : Literal} (hd : l.datatype.isIntegerDatatype = true) :
    ofLiteral? l = (readInteger? l.text).map .integer := by
  have hne : ∀ e : Iri, e.isIntegerDatatype = false → l.datatype ≠ e := by
    rintro e he rfl
    rw [hd] at he
    cases he
  have hdouble := hne Xsd.double (by decide)
  have hfloat := hne Xsd.float (by decide)
  have hdecimal := hne Xsd.decimal (by decide)
  simp only [ofLiteral?, if_neg hdouble, if_neg hfloat, if_neg hdecimal, if_pos hd]

/-- A literal of an integer datatype has the value of 64 bits that its text spells, plus signs in front being passed over.
A text without a surplus sign is read if and only if it is a spelling itself. A literal that is not read counts as a
number nowhere. -/
theorem ofLiteral?_spells (hd : d.isIntegerDatatype = true) (s : String) :
    (∀ n, ofLiteral? (.typed s d) = some n ↔ ∃ i, n = .integer i ∧ (-2 ^ 63 ≤ i ∧ i < 2 ^ 63) ∧
      ∃ k cs, s.toList = List.replicate k '+' ++ cs ∧ Spells cs i) ∧
    (¬ HasSurplusSign s.toList → ∀ n, ofLiteral? (.typed s d) = some n ↔
      ∃ i, n = .integer i ∧ (-2 ^ 63 ≤ i ∧ i < 2 ^ 63) ∧ Spells s.toList i) ∧
    (ofLiteral? (.typed s d) = none → (Literal.typed s d).NoNumber) := by
  have hread : ∀ n, ofLiteral? (.typed s d) = some n ↔ ∃ i, n = .integer i ∧ (-2 ^ 63 ≤ i ∧ i < 2 ^ 63) ∧
      ∃ k cs, s.toList = List.replicate k '+' ++ cs ∧ Spells cs i := by
    intro n
    rw [ofLiteral?_of_integer (l := .typed s d) hd, Option.map_eq_some_iff]
    refine exists_congr fun i => ?_
    rw [Literal.text, readInteger?_eq_some_iff, fitsInt64_iff, and_comm, eq_comm]
  refine ⟨hread, fun hsurplus n => ?_, Literal.noNumber_of_ofLiteral? ?_⟩
  · rw [hread]
    refine exists_congr fun i => and_congr_right fun _ => and_congr_right fun _ => exists_spells_iff hsurplus
  · rw [Iri.isNumericDatatype, Literal.datatype, hd, Bool.or_true]

/-- The least integer is read, and the text without its sign is not. -/
theorem ofLiteral?_spells_least :
    let long := Xsd.named "long"
    long.isIntegerDatatype = true ∧ ¬ HasSurplusSign "-9223372036854775808".toList ∧
      ofLiteral? (.typed "-9223372036854775808" long) = some (.integer (-2 ^ 63)) ∧
      ofLiteral? (.typed "9223372036854775808" long) = none ∧
      (Literal.typed "9223372036854775808" long).NoNumber := by
  intro long
  have hd : long.isIntegerDatatype = true := by decide
  have hsurplus : ¬ HasSurplusSign "-9223372036854775808".toList := by
    rintro ⟨c, ds, h, -⟩
    cases h
  have hnone : ofLiteral? (.typed "9223372036854775808" long) = none := by decide
  have hspells : Spells "-9223372036854775808".toList (-2 ^ 63) := .minus (isDigits_iff.2 (by decide))
  exact ⟨hd, hsurplus, ((ofLiteral?_spells hd _).2.1 hsurplus _).2 ⟨_, rfl, by decide, hspells⟩, hnone,
    (ofLiteral?_spells hd _).2.2 hnone⟩

end Numeric

end SparqlAlgebra

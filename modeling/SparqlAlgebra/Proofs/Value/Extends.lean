import SparqlAlgebra.Proofs.Value.Keys

/-!
# The order of terms extends the comparison operators

A literal that is less than another one also comes before it in the order of terms. The exception are exact numbers with
so many digits that they share a double-precision key, or are rounded to it more than once.
-/

namespace SparqlAlgebra

namespace Moment

/-- A moment in UTC that is on one side of a local time for all offsets is on that side for the offset zero. -/
theorem compare_of_compareToLocal? {utc loc : Decimal} {o : Ordering} (ho : o ≠ .eq)
    (h : compareToLocal? utc loc = some o) : compare utc.units loc.units = o := by
  have hmax : 0 < (Decimal.ofInt maxOffsetSeconds).units := by decide
  unfold compareToLocal? at h
  split at h
  · rename_i late early hlate hearly
    have hlate' : late.units = loc.units + (Decimal.ofInt maxOffsetSeconds).units := by
      rw [Decimal.add?, Decimal.ofUnits?, Option.ite_none_right_eq_some] at hlate
      rw [← Option.some.inj hlate.2]
    have hearly' : early.units = loc.units - (Decimal.ofInt maxOffsetSeconds).units := by
      rw [Decimal.sub?, Decimal.ofUnits?, Option.ite_none_right_eq_some] at hearly
      rw [← Option.some.inj hearly.2]
    dsimp only at h
    rw [Option.ite_none_right_eq_some] at h
    obtain ⟨hsame, h⟩ := h
    obtain rfl := Option.some.inj h
    cases hc : compare utc.units late.units with
    | eq => exact absurd hc ho
    | lt =>
      rw [hc, eq_comm, compare_lt_iff_lt] at hsame
      exact compare_lt_iff_lt.2 (by omega)
    | gt =>
      rw [compare_gt_iff_gt] at hc
      exact compare_gt_iff_gt.2 (by omega)
  · cases h

/-- A moment before another one has fewer seconds. -/
theorem compare_seconds {x y : Moment} (h : x.compare? y = some .lt) :
    compare x.seconds.units y.seconds.units = .lt := by
  unfold compare? at h
  split at h
  · exact Option.some.inj h
  · exact Option.some.inj h
  · exact compare_of_compareToLocal? (by decide) h
  · obtain ⟨o, hlocal, hswap⟩ := Option.map_eq_some_iff.1 h
    obtain rfl : o = .gt := by
      cases o with
      | gt => rfl
      | _ => cases hswap
    have hgt := compare_of_compareToLocal? (by decide) hlocal
    rw [compare_gt_iff_gt] at hgt
    exact compare_lt_iff_lt.2 hgt

end Moment

namespace Literal

variable {l : Literal} {n : Numeric}

/-- A literal with a numeric value has none of the other datatypes with values. -/
theorem datatype_ne_of_ofLiteral? (h : Numeric.ofLiteral? l = some n) :
    ∀ d ∈ [Xsd.string, rdfLangString, Xsd.boolean, Xsd.dateTime], l.datatype ≠ d := by
  intro d hd heq
  have hnone : Numeric.ofLiteral? l = none := by
    simp only [List.mem_cons, List.not_mem_nil, or_false] at hd
    unfold Numeric.ofLiteral?
    rw [heq]
    rcases hd with rfl | rfl | rfl | rfl <;> rfl
  rw [hnone] at h
  cases h

/-- The literals that stand for a number are those with a numeric value. -/
theorem value_eq_number_iff : l.value = .number n ↔ Numeric.ofLiteral? l = some n := by
  constructor
  · intro h
    have hgetD : ∀ {α : Type} {f : α → LiteralValue} {x : Option α}, (x.map f).getD .unknown = .number n →
        ∃ v, x = some v ∧ f v = .number n := by
      intro α f x hx
      cases x with
      | none => cases hx
      | some v => exact ⟨v, rfl, hx⟩
    unfold value at h
    dsimp only at h
    split_ifs at h
    · obtain ⟨v, -, hv⟩ := hgetD h
      cases hv
    · obtain ⟨v, -, hv⟩ := hgetD h
      cases hv
    · obtain ⟨v, hv, hn⟩ := hgetD h
      cases hn
      exact hv
  · intro h
    have hne := datatype_ne_of_ofLiteral? h
    unfold value
    dsimp only
    rw [if_neg (hne _ (by simp)), if_neg (hne _ (by simp)), if_neg (hne _ (by simp)), if_neg (hne _ (by simp)), h]
    rfl

/-- A literal with a numeric value has no language. -/
theorem language?_of_ofLiteral? (h : Numeric.ofLiteral? l = some n) : l.language? = none := by
  cases l with
  | typed s d => rfl
  | tagged s t => exact absurd rfl (datatype_ne_of_ofLiteral? h rdfLangString (by simp))

end Literal

/-- Values that are compared have keys of one group, which are in the same order. -/
theorem OrderKey.orderValues_of_compare? {v w : LiteralValue} (h : v.compare? w = some .lt)
    (hnumbers : ∀ m n, v = .number m → w = .number n → m.toDouble.compare? n.toDouble = some .lt) :
    (ofValue v).group = (ofValue w).group ∧ (ofValue v).orderValues (ofValue w) = .lt := by
  cases v with
  | number m =>
    cases w with
    | number n => exact ⟨rfl, Binary.totalCompare_of_lt (hnumbers m n rfl rfl)⟩
    | _ => cases h
  | truth a =>
    cases w with
    | truth b => exact ⟨rfl, Option.some.inj h⟩
    | _ => cases h
  | text a =>
    cases w with
    | text b => exact ⟨rfl, Option.some.inj h⟩
    | _ => cases h
  | taggedText a l =>
    cases w with
    | taggedText b m =>
      rw [LiteralValue.compare?, Option.ite_none_right_eq_some, Option.some.injEq] at h
      refine ⟨rfl, ?_⟩
      change (compareText a b).then (compareText l m) = .lt
      rw [h.2]
      rfl
    | _ => cases h
  | moment a =>
    cases w with
    | moment b =>
      refine ⟨rfl, ?_⟩
      change compare a.seconds.units b.seconds.units = .lt
      exact Moment.compare_seconds h
    | _ => cases h
  | unknown => cases h

namespace Term

variable {a b : Literal}

/-- A literal that is less than another one comes before it, if their keys are in order in case both are numbers. -/
theorem orderOptional_of_keys (h : compare? (.literal a) (.literal b) = some .lt)
    (hkeys : ∀ m n, Numeric.ofLiteral? a = some m → Numeric.ofLiteral? b = some n → m.compare? n = some .lt →
      m.toDouble.compare? n.toDouble = some .lt) :
    orderOptional (some (.literal a)) (some (.literal b)) = .lt := by
  change a.value.compare? b.value = some .lt at h
  have hnumbers : ∀ m n, a.value = .number m → b.value = .number n → m.toDouble.compare? n.toDouble = some .lt := by
    intro m n hm hn
    refine hkeys m n (Literal.value_eq_number_iff.1 hm) (Literal.value_eq_number_iff.1 hn) ?_
    rwa [hm, hn] at h
  obtain ⟨hgroup, hvalues⟩ := OrderKey.orderValues_of_compare? h hnumbers
  change Literal.order a b = .lt
  rw [Literal.order, hgroup, hvalues, compare_eq_iff_eq.2 rfl]
  rfl

section Exact

variable {m n : Numeric} {q r : ℚ} (ha : Numeric.ofLiteral? a = some m) (hb : Numeric.ofLiteral? b = some n)
  (hq : m.exactValue? = some q) (hr : n.exactValue? = some r) (hlt : q < r)
include ha hb hq hr hlt

/-- Exact numbers are in the order of their values if their keys are. -/
theorem orderOptional_of_exact (hkeys : m.toDouble.compare? n.toDouble = some .lt) :
    orderOptional (some (.literal a)) (some (.literal b)) = .lt := by
  refine orderOptional_of_keys ?_ fun m' n' hm hn _ => ?_
  · change a.value.compare? b.value = some .lt
    rw [Literal.value_eq_number_iff.2 ha, Literal.value_eq_number_iff.2 hb]
    exact (Numeric.compare?_exact hq hr).trans (congrArg some (compare_lt_iff_lt.2 hlt))
  · obtain rfl : m = m' := Option.some.inj (ha.symm.trans hm)
    obtain rfl : n = n' := Option.some.inj (hb.symm.trans hn)
    exact hkeys

/-- Integers and decimals of at most fifteen digits are in the order of their values. -/
theorem orderOptional_of_digits (hdigits : |m.digits.1| ≤ 10 ^ 15) (hdigits' : |n.digits.1| ≤ 10 ^ 15) :
    orderOptional (some (.literal a)) (some (.literal b)) = .lt := by
  have hfar := Numeric.farApart_of_digits hq hr hdigits hdigits' hlt.ne
  refine orderOptional_of_exact ha hb hq hr hlt ?_
  refine hfar.compare?_toDouble (Numeric.valid_of_ofLiteral? ha) (Numeric.valid_of_ofLiteral? hb) ?_
  rw [Numeric.compare?_exact hq hr, compare_lt_iff_lt.2 hlt]

/-- Of two exact numbers that are each rounded once, the smaller one comes first unless they share a key. Then the
datatypes and the texts decide. -/
theorem orderOptional_lt_iff (honce : m.RoundedOnce) (honce' : n.RoundedOnce) :
    orderOptional (some (.literal a)) (some (.literal b)) = .lt ↔
      m.toDouble.compare? n.toDouble ≠ some .eq ∨
        (compareText a.datatype.text b.datatype.text).then (compareText a.text b.text) = .lt := by
  have hm := Numeric.valid_of_ofLiteral? ha
  have hn := Numeric.valid_of_ofLiteral? hb
  by_cases hshared : m.toDouble.compare? n.toDouble = some .eq
  · have horder : Literal.order a b =
        (compareText a.datatype.text b.datatype.text).then (compareText a.text b.text) := by
      rw [Literal.order, Literal.value_eq_number_iff.2 ha, Literal.value_eq_number_iff.2 hb,
        Literal.language?_of_ofLiteral? ha, Literal.language?_of_ofLiteral? hb]
      change (Double.order m.toDouble n.toDouble).then _ = _
      rw [Numeric.order_toDouble_of_eq hm hn hq hr hlt.ne hshared, compareOptionalText, Ordering.then_eq]
      rfl
    change Literal.order a b = .lt ↔ _
    rw [horder]
    exact (or_iff_right (not_not.2 hshared)).symm
  · refine iff_of_true ?_ (.inl hshared)
    refine orderOptional_of_exact ha hb hq hr hlt ?_
    exact Numeric.KeysApart.compare?_toDouble ⟨honce, honce', hshared⟩ hm hn hq hr hlt

end Exact

/-- A literal that is less than another one comes before it. If both are integers or decimals, they must be farther
apart than rounding moves them, or be rounded once to different doubles. -/
theorem orderOptional_of_compare? (h : compare? (.literal a) (.literal b) = some .lt)
    (hexact : ∀ m n, Numeric.ofLiteral? a = some m → Numeric.ofLiteral? b = some n →
      m.exactValue?.isSome → n.exactValue?.isSome → m.FarApart n ∨ m.KeysApart n) :
    orderOptional (some (.literal a)) (some (.literal b)) = .lt :=
  orderOptional_of_keys h fun m n hm hn hlt =>
    Numeric.compare?_toDouble (Numeric.valid_of_ofLiteral? hm) (Numeric.valid_of_ofLiteral? hn) hlt (hexact m n hm hn)

/-- Nine comes before ten, both as a value and in the order. -/
theorem orderOptional_nine_ten :
    compare? (.literal (.typed "9" Xsd.integer)) (.literal (.typed "10" Xsd.integer)) = some .lt ∧
      orderOptional (some (.literal (.typed "9" Xsd.integer))) (some (.literal (.typed "10" Xsd.integer))) = .lt := by
  have hless : compare? (.literal (.typed "9" Xsd.integer)) (.literal (.typed "10" Xsd.integer)) = some .lt := by decide
  refine ⟨hless, orderOptional_of_compare? hless fun m n hm hn _ _ => ?_⟩
  obtain rfl : Numeric.integer 9 = m := Option.some.inj hm
  obtain rfl : Numeric.integer 10 = n := Option.some.inj hn
  exact .inr ⟨trivial, trivial, by decide⟩

-- Both numbers are rounded to the same double, and the text of the smaller one is the greater one.
example :
    compare? (.literal (.typed "99999999999999999" Xsd.integer)) (.literal (.typed "100000000000000000" Xsd.integer)) =
        some .lt ∧
      orderOptional (some (.literal (.typed "99999999999999999" Xsd.integer)))
        (some (.literal (.typed "100000000000000000" Xsd.integer))) = .gt := by
  decide

end Term

end SparqlAlgebra

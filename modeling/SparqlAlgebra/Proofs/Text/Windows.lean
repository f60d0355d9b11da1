import SparqlAlgebra.Function.Call
import SparqlAlgebra.Proofs.Number.Integral

/-!
# Windows of a text

A part of a text is asked for by the position that it starts at and by its length, as numbers that are rounded. For
integers that are exact, the part is the run of the characters at the positions from the start on and before the sum,
cut down to the positions that the text has.
-/

namespace SparqlAlgebra

/-- The elements whose places, counted from `start`, lie between two bounds are what is left of a beginning of the list
after another beginning. -/
theorem map_fst_filter_zipIdx {α : Type} (xs : List α) (start : ℕ) (low high : ℤ) :
    ((xs.zipIdx start).filter fun p => decide (low ≤ p.2 ∧ p.2 < high)).map Prod.fst =
      (xs.take (high - start).toNat).drop (low - start).toNat := by
  induction xs generalizing start with
  | nil => simp
  | cons x xs ih =>
    have hrest := ih (start + 1)
    rw [List.zipIdx_cons]
    rcases lt_or_ge (start : ℤ) high with hhigh | hhigh
    · have htake : (high - start).toNat = (high - (start + 1 : ℕ)).toNat + 1 := by omega
      rw [htake, List.take_succ_cons]
      rcases le_or_gt low start with hlow | hlow
      · have hzero : (low - start).toNat = 0 := by omega
        have hzero' : (low - (start + 1 : ℕ)).toNat = 0 := by omega
        rw [hzero', List.drop_zero] at hrest
        rw [List.filter_cons_of_pos (by exact decide_eq_true ⟨hlow, hhigh⟩), List.map_cons, hrest, hzero,
          List.drop_zero]
      · have hdrop : (low - start).toNat = (low - (start + 1 : ℕ)).toNat + 1 := by omega
        have hout : ¬ (low ≤ start ∧ (start : ℤ) < high) := by omega
        rw [List.filter_cons_of_neg (by exact mt of_decide_eq_true hout), hrest, hdrop, List.drop_succ_cons]
    · have hzero : (high - start).toNat = 0 := by omega
      have hzero' : (high - (start + 1 : ℕ)).toNat = 0 := by omega
      have hout : ¬ (low ≤ start ∧ (start : ℤ) < high) := by omega
      rw [List.filter_cons_of_neg (by exact mt of_decide_eq_true hout), hrest, hzero, hzero', List.take_zero,
        List.take_zero, List.drop_nil, List.drop_nil]

namespace LocalText

variable {t : LocalText} {start length : Double} {i l : ℤ}

/-- The characters at the positions from one bound on and before another one. -/
def charsBetween (t : LocalText) (low high : ℤ) : List Char :=
  ((t.chars.zipIdx 1).filter fun p => decide (low ≤ p.2 ∧ p.2 < high)).map Prod.fst

/-- The characters between two bounds are a drop from a take. -/
theorem charsBetween_eq (t : LocalText) (low high : ℤ) :
    t.charsBetween low high = (t.chars.take (high - 1).toNat).drop (low - 1).toNat :=
  map_fst_filter_zipIdx t.chars 1 low high

/-- The characters between two bounds stand together in the text. -/
theorem charsBetween_infix (t : LocalText) (low high : ℤ) : t.charsBetween low high <:+: t.chars := by
  rw [charsBetween_eq]
  exact (List.drop_suffix _ _).isInfix.trans (List.take_prefix _ _).isInfix

/-- Between bounds within the text there are as many characters as the bounds are apart, and none if they cross. -/
theorem length_charsBetween (t : LocalText) {low high : ℤ} (hlow : 1 ≤ low) (hhigh : high ≤ t.length + 1) :
    ((t.charsBetween low high).length : ℤ) = max 0 (high - low) := by
  have hlength : t.chars.length = t.length := rfl
  rw [charsBetween_eq, List.length_drop, List.length_take, hlength]
  omega

/-- Before a whole number stand the positions below it. -/
theorem positionsBefore_of_isInteger (count : ℕ) {bound : Double} (h : bound.IsInteger i) :
    positionsBefore count bound = min count (i - 1).toNat := by
  have htruncate := h.truncate?
  obtain ⟨s, m, e, rfl, -⟩ := h
  rw [positionsBefore, htruncate]
  · rfl
  · intro neg hnan
    cases hnan
  · intro neg hinfinite
    cases hinfinite

/-- A window with a length ends before the rounded sum of start and length. -/
theorem chars_window_some (t : LocalText) (start length : Double) :
    (t.window start (some length)).chars =
      (t.chars.take (positionsBefore t.length (start.roundHalfAway + length.roundHalfAway))).drop
        (positionsBefore t.length start.roundHalfAway) :=
  String.toList_ofList

/-- A window without a length goes on to the end of the text, unless the start is no number. -/
theorem chars_window_none (t : LocalText) (start : Double) :
    (t.window start none).chars =
      (t.chars.take (if start.roundHalfAway.isNaN then 0 else t.length)).drop
        (positionsBefore t.length start.roundHalfAway) :=
  String.toList_ofList

/-- A window that integers ask for is the run of the characters between the bounds that they give. -/
theorem window_of_isInteger (hstart : start.IsInteger i) (hlength : length.IsInteger l) (hi : |i| < 2 ^ 53)
    (hl : |l| < 2 ^ 53) (hsum : |i + l| < 2 ^ 53) :
    (t.window start (some length)).chars = t.charsBetween (max 1 i) (min (t.length + 1) (i + l)) := by
  have hdouble := BinaryFormat.hasIntegers_double
  have hfirst := hstart.roundHalfAway hdouble hi
  have hlast := hfirst.add hdouble (hlength.roundHalfAway hdouble hl) hsum
  have hchars : t.chars.length = t.length := rfl
  have htake : (min ((t.length : ℤ) + 1) (i + l) - 1).toNat = min t.length (i + l - 1).toNat := by omega
  have hdrop : (max 1 i - 1).toNat = (i - 1).toNat := by omega
  rw [chars_window_some, positionsBefore_of_isInteger _ hfirst, positionsBefore_of_isInteger _ hlast, charsBetween_eq,
    htake, hdrop]
  -- A start behind the text leaves nothing, whether it is cut down to the end or not.
  rcases le_total (i - 1).toNat t.length with hle | hle
  · rw [min_eq_right hle]
  · rw [min_eq_left hle, List.drop_of_length_le (by rw [List.length_take]; omega),
      List.drop_of_length_le (by rw [List.length_take]; omega)]

/-- Without a length, a window reaches up to the end. -/
theorem window_none_of_isInteger (hstart : start.IsInteger i) (hi : |i| < 2 ^ 53) :
    (t.window start none).chars = t.chars.drop (i - 1).toNat := by
  have hfirst := hstart.roundHalfAway BinaryFormat.hasIntegers_double hi
  have hnan : start.roundHalfAway.isNaN = false := by
    obtain ⟨s, m, e, hfinite, -⟩ := hfirst
    rw [hfinite]
    rfl
  have hchars : t.chars.length = t.length := rfl
  rw [chars_window_none, hnan, if_neg Bool.false_ne_true, positionsBefore_of_isInteger _ hfirst, ← hchars,
    List.take_length]
  rcases le_total (i - 1).toNat t.chars.length with hle | hle
  · rw [min_eq_right hle]
  · rw [min_eq_left hle, List.drop_of_length_le le_rfl, List.drop_of_length_le hle]

/-- What stands before a position and what stands from it on are the whole text. -/
theorem charsBetween_append_drop (t : LocalText) (l : ℤ) :
    t.charsBetween (max 1 1) (min (t.length + 1) (1 + l)) ++ t.chars.drop (l + 1 - 1).toNat = t.chars := by
  have hchars : t.chars.length = t.length := rfl
  have htake : (min ((t.length : ℤ) + 1) (1 + l) - 1).toNat = min t.length l.toNat := by omega
  rw [charsBetween_eq, htake, max_self, sub_self, Int.toNat_zero, List.drop_zero, add_sub_cancel_right, ← hchars,
    min_comm, ← List.take_take, List.take_length, List.take_append_drop]

end LocalText

namespace Builtin

variable {start length : Term} {m n : Numeric}

/-- `SUBSTR` with a length gives a window in the language of the text. -/
theorem call_subStr_some (s : LocalText) (hstart : start.numeric? = some m) (hlength : length.numeric? = some n) :
    subStr.call [s.toTerm, start, length] = some (s.window m.toDouble (some n.toDouble)).toTerm := by
  change substring s.toTerm start (some length) = _
  simp [substring, hstart, hlength]

/-- Without a length it gives the window to the end. -/
theorem call_subStr_none (s : LocalText) (hstart : start.numeric? = some m) :
    subStr.call [s.toTerm, start] = some (s.window m.toDouble none).toTerm := by
  change substring s.toTerm start none = _
  simp [substring, hstart]

/-- `STRLEN` counts the characters. -/
theorem call_strLen (s : LocalText) : strLen.call [s.toTerm] = some (.ofInt s.length) := by
  change onText _ s.toTerm = _
  rw [onText, LocalText.ofTerm?_toTerm]
  rfl

/-- A part of a text is the run of the characters at the positions from the start on and before the start and the length
taken together, as far as the text has such positions. So its number of characters is the distance of these bounds, it
stays in the language of the text, and a beginning together with what starts after it is the whole text. -/
theorem call_subStr_window (s : LocalText) {start length : Term} {i l : ℤ}
    (hstart : start.numeric? = some (.integer i)) (hlength : length.numeric? = some (.integer l))
    (hi : |i| < 2 ^ 51) (hl : |l| < 2 ^ 51) :
    (∃ part : LocalText, subStr.call [s.toTerm, start, length] = some part.toTerm ∧
      part.chars = s.charsBetween (max 1 i) (min (s.length + 1) (i + l)) ∧ part.chars <:+: s.chars ∧
      strLen.call [part.toTerm] = some (.ofInt (max 0 (min ((s.length : ℤ) + 1) (i + l) - max 1 i))) ∧
      part.language = s.language) ∧
    ∀ one after : Term, one.numeric? = some (.integer 1) → after.numeric? = some (.integer (l + 1)) →
      ∃ front back : LocalText, subStr.call [s.toTerm, one, length] = some front.toTerm ∧
        subStr.call [s.toTerm, after] = some back.toTerm ∧ front.value ++ back.value = s.value := by
  have hexact : ∀ k : ℤ, |k| < 2 ^ 53 → (Numeric.integer k).toDouble.IsInteger k :=
    fun k hk => Binary.isInteger_ofInt BinaryFormat.hasIntegers_double hk
  rw [abs_lt] at hi hl
  have hi' : |i| < 2 ^ 53 := abs_lt.2 (by omega)
  have hl' : |l| < 2 ^ 53 := abs_lt.2 (by omega)
  have hone' : |(1 : ℤ)| < 2 ^ 53 := by norm_num
  have hafter' : |l + 1| < 2 ^ 53 := abs_lt.2 (by omega)
  constructor
  · have hchars := LocalText.window_of_isInteger (t := s) (hexact i hi') (hexact l hl') hi' hl' (abs_lt.2 (by omega))
    refine ⟨_, call_subStr_some s hstart hlength, hchars, ?_, ?_, rfl⟩
    · rw [hchars]
      exact s.charsBetween_infix _ _
    · rw [call_strLen, LocalText.length, hchars, s.length_charsBetween (le_max_left _ _) (min_le_left _ _)]
  · intro one after hone hafter
    refine ⟨_, _, call_subStr_some s hone hlength, call_subStr_none s hafter, String.toList_inj.1 ?_⟩
    have hfront := LocalText.window_of_isInteger (t := s) (hexact 1 hone') (hexact l hl') hone' hl'
      (abs_lt.2 (by omega))
    have hback := LocalText.window_none_of_isInteger (t := s) (hexact (l + 1) hafter') hafter'
    rw [String.toList_append]
    change LocalText.chars _ ++ LocalText.chars _ = s.chars
    rw [hfront, hback, s.charsBetween_append_drop]

/-- A window that starts before a text whose characters are not all single bytes. -/
theorem call_subStr_window_before :
    let s : LocalText := ⟨"héllo", some "fr"⟩
    let int (digits : String) : Term := .literal (.typed digits Xsd.integer)
    (∃ part : LocalText, subStr.call [s.toTerm, int "-2", int "+5"] = some part.toTerm ∧
      part.chars = ['h', 'é'] ∧ strLen.call [part.toTerm] = some (.ofInt 2) ∧ part.language = some "fr") ∧
    ∃ front back : LocalText, subStr.call [s.toTerm, int "1", int "+5"] = some front.toTerm ∧
      subStr.call [s.toTerm, int "6"] = some back.toTerm ∧ front.value ++ back.value = "héllo" := by
  intro s int
  have hstart : (int "-2").numeric? = some (.integer (-2)) := by decide
  have hlength : (int "+5").numeric? = some (.integer 5) := by decide
  have hone : (int "1").numeric? = some (.integer 1) := by decide
  have hafter : (int "6").numeric? = some (.integer (5 + 1)) := by decide
  obtain ⟨⟨part, hcall, hchars, -, hlen, hlanguage⟩, hparts⟩ :=
    call_subStr_window s hstart hlength (by decide) (by decide)
  exact ⟨⟨part, hcall, hchars.trans (by decide), hlen.trans (by decide), hlanguage⟩, hparts _ _ hone hafter⟩

end Builtin

end SparqlAlgebra

import Mathlib.Data.List.Infix
import SparqlAlgebra.Function.Call

/-!
# What stands before and after the first occurrence

A text is split at the first place where another one occurs in it. The parts and the needle between them are the whole
text, and no shorter beginning of the text stands before the needle; if the needle does not occur, there are no parts.
So the three functions that look for a text in another one fit together.
-/

namespace SparqlAlgebra

namespace Text

variable {needle text front back : List Char} {c : Char}

/-- What the needle begins with is split at once. -/
theorem splitAtFirst_of_begins (h : needle <+: text) :
    splitAtFirst needle text = some ([], text.drop needle.length) := by
  cases text with
  | nil =>
    obtain rfl := List.prefix_nil.1 h
    rfl
  | cons c cs => rw [splitAtFirst, if_pos (List.isPrefixOf_iff_prefix.2 h)]

/-- Nothing occurs in an empty text but the empty one. -/
theorem splitAtFirst_nil (h : ¬ needle <+: []) : splitAtFirst needle [] = none := by
  rw [List.prefix_nil] at h
  rw [splitAtFirst, if_neg (mt List.isEmpty_iff.1 h)]

/-- If there is no occurrence here, the first one is in the rest. -/
theorem splitAtFirst_cons (h : ¬ needle <+: c :: text) :
    splitAtFirst needle (c :: text) = (splitAtFirst needle text).map fun (front, back) => (c :: front, back) := by
  rw [splitAtFirst, if_neg (mt List.isPrefixOf_iff_prefix.1 h)]

/-- The parts and the needle are the whole text, and no shorter beginning of the text stands before the needle. -/
theorem splitAtFirst_spec (h : splitAtFirst needle text = some (front, back)) :
    text = front ++ needle ++ back ∧ ∀ x y, text = x ++ needle ++ y → front.length ≤ x.length := by
  induction text generalizing front with
  | nil =>
    by_cases hprefix : needle <+: []
    · rw [splitAtFirst_of_begins hprefix] at h
      cases h
      exact ⟨by rw [List.prefix_nil.1 hprefix]; rfl, fun x _ _ => Nat.zero_le _⟩
    · rw [splitAtFirst_nil hprefix] at h
      cases h
  | cons c text ih =>
    by_cases hprefix : needle <+: c :: text
    · rw [splitAtFirst_of_begins hprefix] at h
      cases h
      exact ⟨List.prefix_iff_eq_append.1 hprefix |>.symm, fun x _ _ => Nat.zero_le _⟩
    · rw [splitAtFirst_cons hprefix] at h
      obtain ⟨⟨front, back⟩, hsplit, hparts⟩ := Option.map_eq_some_iff.1 h
      cases hparts
      obtain ⟨htext, hleast⟩ := ih hsplit
      refine ⟨by rw [htext]; rfl, fun x y hxy => ?_⟩
      cases x with
      | nil => exact absurd ⟨y, hxy.symm⟩ hprefix
      | cons d x => exact Nat.succ_le_succ (hleast x y (List.cons.inj hxy).2)

/-- A text is split just if the needle occurs in it. -/
theorem occursIn_iff : occursIn needle text = true ↔ needle <:+: text := by
  rw [occursIn]
  induction text with
  | nil =>
    by_cases hprefix : needle <+: []
    · simp [splitAtFirst_of_begins hprefix, hprefix.isInfix]
    · rw [splitAtFirst_nil hprefix, List.infix_nil, ← List.prefix_nil]
      exact iff_of_false Bool.false_ne_true hprefix
  | cons c text ih =>
    rw [List.infix_cons_iff]
    by_cases hprefix : needle <+: c :: text
    · simp [splitAtFirst_of_begins hprefix, hprefix]
    · rw [splitAtFirst_cons hprefix, Option.isSome_map, ih, or_iff_right hprefix]

end Text

namespace LocalText

variable {a b : LocalText}

/-- The parts of a text in which another one occurs. -/
theorem parts_of_contains (h : a.contains b = true) : ∃ x y : String,
    a.before b = a.withValue x ∧ a.after b = a.withValue y ∧ a.value = x ++ b.value ++ y ∧
      ∀ x' y', a.value = x' ++ b.value ++ y' → x.length ≤ x'.length := by
  obtain ⟨⟨front, back⟩, hsplit⟩ := Option.isSome_iff_exists.1 h
  obtain ⟨htext, hleast⟩ := Text.splitAtFirst_spec hsplit
  refine ⟨String.ofList front, String.ofList back, by rw [before, hsplit], by rw [after, hsplit], ?_, ?_⟩
  · rw [← String.toList_inj, String.toList_append, String.toList_append, String.toList_ofList, String.toList_ofList]
    exact htext
  · intro x' y' h'
    rw [← String.toList_inj, String.toList_append, String.toList_append] at h'
    rw [String.length_ofList, ← String.length_toList]
    exact hleast x'.toList y'.toList h'

/-- A text in which another one does not occur has no parts. -/
theorem parts_of_not_contains (h : a.contains b = false) : a.before b = plain "" ∧ a.after b = plain "" := by
  have hnone : Text.splitAtFirst b.chars a.chars = none := Option.isSome_eq_false_iff.1 h |> Option.isNone_iff_eq_none.1
  exact ⟨by rw [before, hnone], by rw [after, hnone]⟩

end LocalText

namespace Builtin

/-- A function of two texts has a value if they are compatible. -/
theorem onTexts_toTerm (f : LocalText → LocalText → Term) (a b : LocalText) :
    onTexts f a.toTerm b.toTerm = if a.isCompatible b then some (f a b) else none := by
  rw [onTexts, LocalText.ofTerm?_toTerm, LocalText.ofTerm?_toTerm]
  rfl

/-- A function of two texts has no value for other terms. -/
theorem onTexts_eq_none {s t : Term} (h : ∀ a b : LocalText, s = a.toTerm → t = b.toTerm → a.isCompatible b = false)
    (f : LocalText → LocalText → Term) : onTexts f s t = none := by
  rw [onTexts]
  cases hs : LocalText.ofTerm? s with
  | none => rfl
  | some a =>
    cases ht : LocalText.ofTerm? t with
    | none => rfl
    | some b =>
      have hab := h a b (LocalText.ofTerm?_eq_some_iff.1 hs) (LocalText.ofTerm?_eq_some_iff.1 ht)
      exact if_neg (by rw [hab]; exact Bool.false_ne_true)

/-- For compatible texts, if the second one occurs in the first one, what stands before its first occurrence, the second
text and what stands after it are the whole text; the parts have the language of the text, and no shorter beginning
stands before the second text. If it does not occur, the parts are empty plain strings. For other terms none of the
functions has a value. -/
theorem call_contains_before_after (s t : Term) :
    (∀ a b : LocalText, s = a.toTerm → t = b.toTerm → a.isCompatible b = true → ∃ found : Bool,
      Builtin.contains.call [s, t] = some (.ofBool found) ∧ (found = true ↔ b.value.toList <:+: a.value.toList) ∧
      (found = true → ∃ x y : String,
        Builtin.strBefore.call [s, t] = some (LocalText.toTerm ⟨x, a.language⟩) ∧
        Builtin.strAfter.call [s, t] = some (LocalText.toTerm ⟨y, a.language⟩) ∧
        a.value = x ++ b.value ++ y ∧ ∀ x' y', a.value = x' ++ b.value ++ y' → x.length ≤ x'.length) ∧
      (found = false →
        Builtin.strBefore.call [s, t] = some (.string "") ∧ Builtin.strAfter.call [s, t] = some (.string ""))) ∧
    ((∀ a b : LocalText, s = a.toTerm → t = b.toTerm → a.isCompatible b = false) →
      Builtin.contains.call [s, t] = none ∧ Builtin.strBefore.call [s, t] = none ∧
        Builtin.strAfter.call [s, t] = none) := by
  refine ⟨?_, fun h => ⟨onTexts_eq_none h _, onTexts_eq_none h _, onTexts_eq_none h _⟩⟩
  rintro a b rfl rfl hab
  have hcall : ∀ f, onTexts f a.toTerm b.toTerm = some (f a b) := by
    intro f
    rw [onTexts_toTerm, if_pos hab]
  refine ⟨a.contains b, hcall _, Text.occursIn_iff, fun h => ?_, fun h => ?_⟩
  · obtain ⟨x, y, hbefore, hafter, htext, hleast⟩ := LocalText.parts_of_contains h
    exact ⟨x, y, (hcall _).trans (congrArg (fun p => some p.toTerm) hbefore),
      (hcall _).trans (congrArg (fun p => some p.toTerm) hafter), htext, hleast⟩
  · obtain ⟨hbefore, hafter⟩ := LocalText.parts_of_not_contains h
    exact ⟨(hcall _).trans (congrArg (fun p => some p.toTerm) hbefore),
      (hcall _).trans (congrArg (fun p => some p.toTerm) hafter)⟩

/-- A needle that occurs twice, in places that overlap, and one in another language. -/
theorem call_contains_before_after_overlap :
    let a : LocalText := ⟨"éabababc", some "en"⟩
    let b : LocalText := ⟨"abab", some "EN"⟩
    let d : LocalText := ⟨"abab", some "de"⟩
    a.isCompatible b = true ∧ Builtin.contains.call [a.toTerm, b.toTerm] = some (.ofBool true) ∧
      (∃ x y : String, Builtin.strBefore.call [a.toTerm, b.toTerm] = some (LocalText.toTerm ⟨x, some "en"⟩) ∧
        Builtin.strAfter.call [a.toTerm, b.toTerm] = some (LocalText.toTerm ⟨y, some "en"⟩) ∧
        "éabababc" = x ++ "abab" ++ y ∧ x.length ≤ 1) ∧
      (∀ a' d' : LocalText, a.toTerm = a'.toTerm → d.toTerm = d'.toTerm → a'.isCompatible d' = false) ∧
      Builtin.contains.call [a.toTerm, d.toTerm] = none := by
  intro a b d
  have hab : a.isCompatible b = true := by decide
  have had : ∀ a' d' : LocalText, a.toTerm = a'.toTerm → d.toTerm = d'.toTerm → a'.isCompatible d' = false := by
    intro a' d' ha hd
    obtain rfl := Option.some.inj (LocalText.ofTerm?_eq_some_iff.2 ha)
    obtain rfl := Option.some.inj (LocalText.ofTerm?_eq_some_iff.2 hd)
    decide
  obtain ⟨found, hcall, hfound, hparts, -⟩ := (call_contains_before_after _ _).1 a b rfl rfl hab
  obtain rfl := hfound.2 ⟨['é'], ['a', 'b', 'c'], by decide⟩
  obtain ⟨x, y, hbefore, hafter, htext, hleast⟩ := hparts rfl
  exact ⟨hab, hcall, ⟨x, y, hbefore, hafter, htext, hleast "é" "abc" (by decide)⟩, had,
    ((call_contains_before_after _ _).2 had).1⟩

end Builtin

end SparqlAlgebra

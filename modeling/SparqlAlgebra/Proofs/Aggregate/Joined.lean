import SparqlAlgebra.Proofs.Aggregate.Columns

/-!
# Joined texts

An aggregate joins texts one after another, with a separator before each but the first, and keeps a language as long as
all texts have had it. What it has after some texts is what they give as a whole: their values with the separator
between each two, and the language that they share. So with an empty separator it is the concatenation of the texts, and
neither has a value if there is a term that is not a text.
-/

namespace SparqlAlgebra

/-- With nothing between them, texts stand one after another. -/
theorem Text.intercalate_empty (ss : List String) : "".intercalate ss = String.join ss := by
  induction ss with
  | nil => rw [String.intercalate_nil, String.join_nil]
  | cons s ss ih =>
    cases ss with
    | nil => rw [String.intercalate_singleton, String.join_cons, String.join_nil, String.append_empty]
    | cons t ss => rw [String.intercalate_cons_cons, ih, String.append_empty, ← String.join_cons]

namespace LocalText

variable {ts : List Term} {xs : List LocalText} {l : String}

/-- Texts are read back from their terms. -/
theorem map_ofTerm?_toTerm (xs : List LocalText) : (xs.map toTerm).map ofTerm? = xs.map some := by
  rw [List.map_map]
  exact List.map_congr_left fun x _ => ofTerm?_toTerm x

/-- Terms that are all texts, or one of them that is not. -/
theorem texts_or_not (ts : List Term) :
    (∃ xs : List LocalText, ts = xs.map toTerm) ∨ ∃ t ∈ ts, ofTerm? t = none := by
  induction ts with
  | nil => exact .inl ⟨[], rfl⟩
  | cons t ts ih =>
    cases ht : ofTerm? t with
    | none => exact .inr ⟨t, List.mem_cons_self, ht⟩
    | some x =>
      obtain rfl := ofTerm?_eq_some_iff.1 ht
      rcases ih with ⟨xs, rfl⟩ | ⟨u, hu, hnot⟩
      · exact .inl ⟨x :: xs, rfl⟩
      · exact .inr ⟨u, List.mem_cons_of_mem _ hu, hnot⟩

/-- Texts have a common language if there are some and each of them has it. -/
theorem commonLanguage_eq_some_iff : commonLanguage xs = some l ↔ xs ≠ [] ∧ ∀ x ∈ xs, x.language = some l := by
  cases xs with
  | nil => simp [commonLanguage]
  | cons x xs =>
    rw [commonLanguage, Option.ite_none_right_eq_some, List.forall_mem_cons]
    simp only [List.all_eq_true, beq_iff_eq, ne_eq, reduceCtorEq, not_false_eq_true, true_and]
    constructor
    · rintro ⟨hall, hx⟩
      exact ⟨hx, fun y hy => (hall y hy).trans hx⟩
    · rintro ⟨hx, hall⟩
      exact ⟨fun y hy => (hall y hy).trans hx.symm, hx⟩

/-- A language that has been lost does not come back. -/
theorem commonLanguage_append_singleton (hxs : xs ≠ []) (x : LocalText) :
    commonLanguage (xs ++ [x]) = if commonLanguage xs = x.language then commonLanguage xs else none := by
  refine Option.ext fun l => ?_
  rw [commonLanguage_eq_some_iff, Option.ite_none_right_eq_some, List.forall_mem_append, List.forall_mem_singleton]
  constructor
  · rintro ⟨-, hall, hx⟩
    have hcommon := commonLanguage_eq_some_iff.2 ⟨hxs, hall⟩
    exact ⟨hcommon.trans hx.symm, hcommon⟩
  · rintro ⟨hsame, hcommon⟩
    exact ⟨by simp, (commonLanguage_eq_some_iff.1 hcommon).2, hsame.symm.trans hcommon⟩

end LocalText

namespace Joined

/-- The state after some texts. -/
def ofTexts (separator : String) (xs : List LocalText) : Joined :=
  ⟨separator.intercalate (xs.map (·.value)), LocalText.commonLanguage xs, xs.length⟩

variable {separator : String} {xs : List LocalText}

/-- One more text. -/
theorem push_ofTexts (xs : List LocalText) (x : LocalText) :
    (ofTexts separator xs).push separator x.value x.language = ofTexts separator (xs ++ [x]) := by
  by_cases hxs : xs = []
  · subst hxs
    simp [ofTexts, push, LocalText.commonLanguage]
  · have hcount : (ofTexts separator xs).count ≠ 0 := by simpa [ofTexts] using hxs
    have htext : separator.intercalate ((xs ++ [x]).map (·.value)) =
        separator.intercalate (xs.map (·.value)) ++ separator ++ x.value := by
      rw [List.map_append, List.map_singleton,
        String.intercalate_append_of_ne_nil (mt List.map_eq_nil_iff.1 hxs) (List.cons_ne_nil _ _),
        String.intercalate_singleton]
    rw [push, if_neg hcount, ofTexts, ofTexts, htext, LocalText.commonLanguage_append_singleton hxs, List.length_append,
      List.length_singleton]

/-- A term is pushed as its text, if it is one. -/
theorem pushTerm?_eq (j : Joined) (t : Term) :
    j.pushTerm? separator (some t) = (LocalText.ofTerm? t).map fun x => j.push separator x.value x.language := by
  cases t with
  | literal l =>
    cases l with
    | tagged s l => rfl
    | typed s d =>
      rw [pushTerm?, LocalText.ofTerm?, LocalText.ofLiteral?]
      split <;> rfl
  | _ => rfl

/-- Joining texts puts the separator between them and keeps a common language. -/
theorem toTerm_ofTexts (separator : String) (xs : List LocalText) :
    (ofTexts separator xs).toTerm =
      LocalText.toTerm ⟨separator.intercalate (xs.map (·.value)), LocalText.commonLanguage xs⟩ := by
  unfold toTerm LocalText.toTerm LocalText.toLiteral ofTexts
  cases LocalText.commonLanguage xs <;> rfl

end Joined

namespace Accumulator

variable {separator : String} {ts : List Term} {xs ys : List LocalText}

/-- A text that has been spoiled stays spoiled. -/
theorem foldl_push_unjoined (values : List (Option Term)) :
    values.foldl push (.concat separator none) = .concat separator none := by
  induction values with
  | nil => rfl
  | cons t values ih => exact ih

/-- All texts, one after another. -/
theorem foldl_push_texts (ys xs : List LocalText) :
    ((xs.map LocalText.toTerm).map some).foldl push (.concat separator (some (.ofTexts separator ys))) =
      .concat separator (some (.ofTexts separator (ys ++ xs))) := by
  induction xs generalizing ys with
  | nil => simp
  | cons x xs ih =>
    have hpush : push (.concat separator (some (.ofTexts separator ys))) (some x.toTerm) =
        .concat separator (some (.ofTexts separator (ys ++ [x]))) := by
      rw [push, Option.bind_some, Joined.pushTerm?_eq, LocalText.ofTerm?_toTerm, Option.map_some, Joined.push_ofTexts]
    rw [List.map_cons, List.map_cons, List.foldl_cons, hpush, ih, List.append_assoc, List.singleton_append]

/-- A term that is not a text spoils everything. -/
theorem foldl_push_of_not_text (h : ∃ t ∈ ts, LocalText.ofTerm? t = none) (j : Option Joined) :
    (ts.map some).foldl push (.concat separator j) = .concat separator none := by
  induction ts generalizing j with
  | nil => simp at h
  | cons u ts ih =>
    rw [List.map_cons, List.foldl_cons]
    rcases (List.exists_mem_cons_iff _ u ts).1 h with hu | h
    · have hpush : push (.concat separator j) (some u) = .concat separator none := by
        cases j with
        | none => rfl
        | some j => rw [push, Option.bind_some, Joined.pushTerm?_eq, hu, Option.map_none]
      rw [hpush, foldl_push_unjoined]
    · exact ih h _

/-- What is joined of terms that are texts, and of others. -/
theorem ofList_texts (separator : String) (xs : List LocalText) :
    (Accumulator.concat separator (some .empty)).ofList ((xs.map LocalText.toTerm).map some) =
      some (some (LocalText.toTerm ⟨separator.intercalate (xs.map (·.value)), LocalText.commonLanguage xs⟩)) := by
  have hempty : Joined.empty = .ofTexts separator [] := by
    rw [Joined.ofTexts, List.map_nil, String.intercalate_nil]
    rfl
  rw [ofList, hempty, foldl_push_texts, List.nil_append, finish, Option.map_some, Joined.toTerm_ofTexts]

/-- A list with anything but texts cannot be joined. -/
theorem ofList_of_not_text (separator : String) (h : ∃ t ∈ ts, LocalText.ofTerm? t = none) :
    (Accumulator.concat separator (some .empty)).ofList (ts.map some) = none := by
  rw [ofList, foldl_push_of_not_text h, finish, Option.map_none]

end Accumulator

namespace Builtin

variable {ts : List Term}

/-- Concatenation joins the texts of its arguments, if all of them are texts. -/
theorem call_concat (ts : List Term) :
    Builtin.concat.call ts = (ts.mapM LocalText.ofTerm?).map fun xs => (LocalText.concat xs).toTerm := rfl

/-- For texts it always has a value. -/
theorem call_concat_texts (xs : List LocalText) :
    Builtin.concat.call (xs.map LocalText.toTerm) =
      some (LocalText.toTerm ⟨String.join (xs.map (·.value)), LocalText.commonLanguage xs⟩) := by
  have hread : (xs.map LocalText.toTerm).mapM LocalText.ofTerm? = some xs := by
    induction xs with
    | nil => rfl
    | cons x xs ih => rw [List.map_cons, List.mapM_cons, LocalText.ofTerm?_toTerm, ih]; rfl
  rw [call_concat, hread]
  rfl

/-- For anything else it has none. -/
theorem call_concat_of_not_text (h : ∃ t ∈ ts, LocalText.ofTerm? t = none) : Builtin.concat.call ts = none := by
  have hread : ts.mapM LocalText.ofTerm? = none := by
    induction ts with
    | nil => simp at h
    | cons u ts ih =>
      rw [List.mapM_cons]
      rcases (List.exists_mem_cons_iff _ u ts).1 h with hu | h
      · rw [hu]
        rfl
      · rw [ih h]
        cases LocalText.ofTerm? u <;> rfl
  rw [call_concat, hread]
  rfl

end Builtin

/-- Joining the terms that the solutions of a group bind a variable to has a value just if all of them are texts: their
values with the separator between each two, in the language that all of them have if there are any. It is the
concatenation of the terms if the separator is empty; otherwise that has the same language, and a value just as well. -/
theorem Aggregate.groupConcat_of_terms {v : Variable} {rows : List Solution} {ts : List Term}
    (h : rows.map (·.get? v) = ts.map some) (separator : Option String) (compiler : Expression.Compiler) :
    ∃ r, (Aggregate.apply (.groupConcat separator) false (.var v)).ready compiler = .ok r ∧ ∀ seed,
      let joined : Option (Option Term) := r.evaluate seed (.ofList rows)
      (joined = none ↔ ∃ t ∈ ts, LocalText.ofTerm? t = none) ∧
        (Builtin.concat.call ts = none ↔ ∃ t ∈ ts, LocalText.ofTerm? t = none) ∧
        (∀ xs : List LocalText, ts.map LocalText.ofTerm? = xs.map some → ∃ language : Option String,
          (∀ l, language = some l ↔ xs ≠ [] ∧ ∀ x ∈ xs, x.language = some l) ∧
            joined = some (some (LocalText.toTerm
              ⟨(separator.getD SetFunction.defaultSeparator).intercalate (xs.map (·.value)), language⟩)) ∧
            Builtin.concat.call ts = some (LocalText.toTerm ⟨String.join (xs.map (·.value)), language⟩)) ∧
        (separator = some "" → joined = (Builtin.concat.call ts).map some) := by
  refine ⟨_, ready_var rfl false v compiler, fun seed => ?_⟩
  intro joined
  have hjoined : joined =
      (Accumulator.concat (separator.getD SetFunction.defaultSeparator) (some .empty)).ofList (ts.map some) := by
    rw [show joined = _ from ReadyAggregate.evaluate_var _ false v seed rows, if_neg Bool.false_ne_true, h]
  rcases LocalText.texts_or_not ts with ⟨xs, rfl⟩ | hnot
  · have htexts : ¬ ∃ t ∈ xs.map LocalText.toTerm, LocalText.ofTerm? t = none := by simp
    rw [Accumulator.ofList_texts] at hjoined
    have hcall := Builtin.call_concat_texts xs
    refine ⟨iff_of_false (by simp [hjoined]) htexts, iff_of_false (by simp [hcall]) htexts, fun ys hys => ?_, ?_⟩
    · have hmap := (LocalText.map_ofTerm?_toTerm xs).symm.trans hys
      obtain rfl := List.map_injective_iff.2 (Option.some_injective _) hmap
      exact ⟨_, fun l => LocalText.commonLanguage_eq_some_iff, hjoined, hcall⟩
    · rintro rfl
      rw [hjoined, hcall, Option.getD_some, Text.intercalate_empty, Option.map_some]
  · rw [Accumulator.ofList_of_not_text _ hnot] at hjoined
    have hcall := Builtin.call_concat_of_not_text hnot
    refine ⟨iff_of_true hjoined hnot, iff_of_true hcall hnot, fun ys hys => ?_, fun _ => ?_⟩
    · obtain ⟨t, ht, hnone⟩ := hnot
      have hmem : LocalText.ofTerm? t ∈ ys.map some := hys ▸ List.mem_map_of_mem ht
      rw [hnone] at hmem
      simp at hmem
    · rw [hjoined, hcall, Option.map_none]

/-- An empty text among two others, all in one language. -/
theorem Aggregate.groupConcat_of_terms_empty :
    let x : Variable := ⟨"x"⟩
    let text : String → Term := fun s => .literal (.tagged s "en")
    let rows : List Solution := ["a", "", "b"].map fun s => Solution.empty.insert x (text s)
    let compiler : Expression.Compiler := ⟨[], .iri ⟨"http://example.com/p"⟩⟩
    rows.map (·.get? x) = [text "a", text "", text "b"].map some ∧
      ∃ r, (Aggregate.apply (.groupConcat (some ",")) false (.var x)).ready compiler = .ok r ∧
        r.evaluate 0 (.ofList rows) = some (some (text "a,,b")) ∧
        Builtin.concat.call [text "a", text "", text "b"] = some (text "ab") := by
  intro x text rows compiler
  let xs : List LocalText := [⟨"a", some "en"⟩, ⟨"", some "en"⟩, ⟨"b", some "en"⟩]
  have hrows : rows.map (·.get? x) = [text "a", text "", text "b"].map some := by decide +kernel
  obtain ⟨r, hr, hvalue⟩ := groupConcat_of_terms hrows (some ",") compiler
  obtain ⟨-, -, htexts, -⟩ := hvalue 0
  obtain ⟨language, hlanguage, hjoined, hcall⟩ := htexts xs rfl
  obtain rfl := (hlanguage "en").2 (by decide)
  refine ⟨hrows, r, hr, hjoined.trans ?_, hcall.trans ?_⟩ <;> decide +kernel

end SparqlAlgebra

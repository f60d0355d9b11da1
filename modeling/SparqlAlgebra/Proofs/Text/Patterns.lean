import SparqlAlgebra.Proofs.Pattern.Match
import SparqlAlgebra.Proofs.Text.Codes
import SparqlAlgebra.Storage.Store

/-!
# Texts of patterns

Kept solutions are found by the text of their patterns, in which blanks stand between the places of a pattern and
between patterns. Quoted texts may have blanks in them, but then it can be seen where they end. If no name and no IRI
has a blank in it, the text of some patterns is not the text of any others.
-/

namespace SparqlAlgebra

/-- There is no blank in a text. -/
def isUnbroken (s : String) : Bool := !s.toList.contains ' '

/-- What follows the text of a place: nothing, or a blank. -/
def IsBreak (xs : List Char) : Prop := ∀ x ∈ xs.head?, x = ' '

/-- The end of a text is a break. -/
theorem isBreak_nil : IsBreak [] := nofun

/-- A blank is a break. -/
theorem isBreak_cons (xs : List Char) : IsBreak (' ' :: xs) := by
  intro x hx
  exact (Option.some.inj hx).symm

/-- Texts without blanks end at the next break. -/
theorem append_inj_of_unbroken {as bs xs ys : List Char} (ha : ' ' ∉ as) (hb : ' ' ∉ bs) (hx : IsBreak xs)
    (hy : IsBreak ys) (h : as ++ xs = bs ++ ys) : as = bs ∧ xs = ys := by
  induction as generalizing bs with
  | nil =>
    cases bs with
    | nil => exact ⟨rfl, h⟩
    | cons b bs =>
      have hblank : b = ' ' := hx b (by rw [show xs = b :: (bs ++ ys) from h]; rfl)
      exact absurd (hblank ▸ List.mem_cons_self) hb
  | cons a as ih =>
    cases bs with
    | nil =>
      have hblank : a = ' ' := hy a (by rw [show ys = a :: (as ++ xs) from h.symm]; rfl)
      exact absurd (hblank ▸ List.mem_cons_self) ha
    | cons b bs =>
      obtain ⟨rfl, hrest⟩ := List.cons.inj h
      obtain ⟨rfl, rfl⟩ := ih (List.not_mem_of_not_mem_cons ha) (List.not_mem_of_not_mem_cons hb) hrest
      exact ⟨rfl, rfl⟩

/-! ## Names, terms and patterns without blanks -/

namespace Literal

/-- The datatype or the language has no blank in it. The text may have some. -/
def isUnbroken : Literal → Bool
  | .typed _ d => SparqlAlgebra.isUnbroken d.text
  | .tagged _ l => SparqlAlgebra.isUnbroken l

/-- What stands behind the quoted text. -/
def tail : Literal → List Char
  | .typed _ d => if d = Xsd.string then [] else '^' :: '^' :: d.toText.toList
  | .tagged _ l => '@' :: l.toList

/-- The text of a literal is the quoted content and the tail. -/
theorem toList_toText (l : Literal) : l.toText.toList = (QuotedText.encode l.text).toList ++ l.tail := by
  cases l with
  | typed s d =>
    by_cases hd : d = Xsd.string
    · simp [toText, text, tail, hd]
    · simp [toText, text, tail, hd]
  | tagged s l => simp [toText, text, tail]

/-- An unbroken literal has no blank behind its quotes. -/
theorem blank_not_mem_tail {l : Literal} (h : l.isUnbroken = true) : ' ' ∉ l.tail := by
  cases l with
  | typed s d =>
    by_cases hd : d = Xsd.string
    · simp [tail, hd]
    · simpa [tail, hd, Iri.toText, isUnbroken, SparqlAlgebra.isUnbroken] using h
  | tagged s l => simpa [tail, isUnbroken, SparqlAlgebra.isUnbroken] using h

/-- The text of a literal ends at the break behind its quoted part. -/
theorem toText_append_inj {a b : Literal} {xs ys : List Char} (ha : a.isUnbroken = true) (hb : b.isUnbroken = true)
    (hx : IsBreak xs) (hy : IsBreak ys) (h : a.toText.toList ++ xs = b.toText.toList ++ ys) : a = b ∧ xs = ys := by
  rw [toList_toText, toList_toText, List.append_assoc, List.append_assoc] at h
  obtain ⟨htext, hrest⟩ := QuotedText.encode_append_inj h
  obtain ⟨htail, rfl⟩ := append_inj_of_unbroken (blank_not_mem_tail ha) (blank_not_mem_tail hb) hx hy hrest
  have hsame : a.toText = b.toText := by
    rw [← String.toList_inj, toList_toText, toList_toText, htext, htail]
  exact ⟨toText_injective a b hsame, rfl⟩

end Literal

namespace Term

/-- A term without a blank in what is written outside of quotes. -/
def isUnbroken : Term → Bool
  | .iri i => SparqlAlgebra.isUnbroken i.text
  | .blank b => SparqlAlgebra.isUnbroken b.label
  | .literal l => l.isUnbroken

end Term

namespace Slot

/-- A slot without a blank outside of quotes. -/
def isUnbroken : Slot → Bool
  | .var v => SparqlAlgebra.isUnbroken v.name
  | .term t => t.isUnbroken

/-- The first letter tells a variable from a term. -/
theorem toText_injective {a b : Slot} (h : a.toText = b.toText) : a = b := by
  have hvar : ∀ v : Variable, (Slot.var v).toText.toList = '?' :: v.name.toList := by
    intro v
    simp [toText, Variable.toText]
  have hterm : ∀ t : Term, t.toText.toList.head? ≠ some '?' := by
    intro t
    cases t with
    | iri i => simp [Term.toText, Iri.toText]
    | blank b => simp [Term.toText, BlankNode.toText]
    | literal l => simp [Term.toText, Literal.toList_toText, QuotedText.encode]
  have hlist := congrArg String.toList h
  cases a with
  | var v =>
    cases b with
    | var w =>
      rw [hvar, hvar] at hlist
      have hname : v.name = w.name := String.toList_inj.1 (List.cons.inj hlist).2
      rw [Solution.eq_of_name_eq hname]
    | term t =>
      rw [hvar] at hlist
      exact absurd (congrArg List.head? hlist).symm (hterm t)
  | term t =>
    cases b with
    | var v =>
      rw [hvar] at hlist
      exact absurd (congrArg List.head? hlist) (hterm t)
    | term u => rw [Term.toText_injective t u h]

/-- The place holds a literal. -/
def IsLiteral (a : Slot) : Prop := ∃ l, a = .term (.literal l)

/-- Only literals are quoted, and only they have blanks in their texts. -/
theorem unquoted_of_not_isLiteral {a : Slot} (ha : a.isUnbroken = true) (hl : ¬ a.IsLiteral) :
    ' ' ∉ a.toText.toList ∧ ∀ xs, (a.toText.toList ++ xs).head? ≠ some '"' := by
  cases a with
  | var v =>
    refine ⟨?_, by simp [toText, Variable.toText]⟩
    simpa [toText, Variable.toText, isUnbroken, SparqlAlgebra.isUnbroken] using ha
  | term t =>
    cases t with
    | iri i =>
      refine ⟨?_, by simp [toText, Term.toText, Iri.toText]⟩
      simpa [toText, Term.toText, Iri.toText, isUnbroken, Term.isUnbroken, SparqlAlgebra.isUnbroken] using ha
    | blank b =>
      refine ⟨?_, by simp [toText, Term.toText, BlankNode.toText]⟩
      simpa [toText, Term.toText, BlankNode.toText, isUnbroken, Term.isUnbroken, SparqlAlgebra.isUnbroken] using ha
    | literal l => exact absurd ⟨l, rfl⟩ hl

/-- A literal starts with a quotation mark. -/
theorem quoted_of_isLiteral {a : Slot} (hl : a.IsLiteral) (xs : List Char) :
    (a.toText.toList ++ xs).head? = some '"' := by
  obtain ⟨l, rfl⟩ := hl
  simp [toText, Term.toText, Literal.toList_toText, QuotedText.encode]

/-- The text of a place ends where it is seen to end. -/
theorem toText_append_inj {a b : Slot} {xs ys : List Char} (ha : a.isUnbroken = true) (hb : b.isUnbroken = true)
    (hx : IsBreak xs) (hy : IsBreak ys) (h : a.toText.toList ++ xs = b.toText.toList ++ ys) : a = b ∧ xs = ys := by
  by_cases hla : a.IsLiteral
  · by_cases hlb : b.IsLiteral
    · obtain ⟨l, rfl⟩ := hla
      obtain ⟨m, rfl⟩ := hlb
      obtain ⟨rfl, rfl⟩ := Literal.toText_append_inj ha hb hx hy h
      exact ⟨rfl, rfl⟩
    · have hquote : (b.toText.toList ++ ys).head? = some '"' := by
        rw [← h]
        exact quoted_of_isLiteral hla xs
      exact absurd hquote ((unquoted_of_not_isLiteral hb hlb).2 ys)
  · obtain ⟨hblank, hquote⟩ := unquoted_of_not_isLiteral ha hla
    by_cases hlb : b.IsLiteral
    · have hquoted := quoted_of_isLiteral hlb ys
      rw [← h] at hquoted
      exact absurd hquoted (hquote xs)
    · obtain ⟨htext, rfl⟩ := append_inj_of_unbroken hblank (unquoted_of_not_isLiteral hb hlb).1 hx hy h
      exact ⟨toText_injective (String.toList_inj.1 htext), rfl⟩

end Slot

namespace IriSlot

/-- A variable or IRI without a blank. -/
def isUnbroken : IriSlot → Bool
  | .var v => SparqlAlgebra.isUnbroken v.name
  | .iri i => SparqlAlgebra.isUnbroken i.text

/-- An IRI slot is written as the slot it is. -/
theorem toText_toSlot (a : IriSlot) : a.toSlot.toText = a.toText := by
  cases a <;> rfl

/-- An IRI slot is unbroken exactly if it is so as a slot. -/
theorem isUnbroken_toSlot (a : IriSlot) : a.toSlot.isUnbroken = a.isUnbroken := by
  cases a <;> rfl

/-- Different IRI slots are different slots. -/
theorem toSlot_injective {a b : IriSlot} (h : a.toSlot = b.toSlot) : a = b := by
  cases a <;> cases b <;> cases h <;> rfl

/-- An unbroken variable or IRI is read off from a text up to the next break. -/
theorem toText_append_inj {a b : IriSlot} {xs ys : List Char} (ha : a.isUnbroken = true) (hb : b.isUnbroken = true)
    (hx : IsBreak xs) (hy : IsBreak ys) (h : a.toText.toList ++ xs = b.toText.toList ++ ys) : a = b ∧ xs = ys := by
  rw [← isUnbroken_toSlot] at ha hb
  rw [← toText_toSlot, ← toText_toSlot] at h
  obtain ⟨hslot, hrest⟩ := Slot.toText_append_inj ha hb hx hy h
  exact ⟨toSlot_injective hslot, hrest⟩

end IriSlot

namespace TriplePattern

/-- No name, no label and no IRI in the pattern has a blank in it. -/
def isUnbroken (p : TriplePattern) : Bool := p.subject.isUnbroken && p.predicate.isUnbroken && p.object.isUnbroken

/-- A pattern is written as its three slots with a blank between them. -/
theorem toList_toText (p : TriplePattern) : p.toText.toList =
    p.subject.toText.toList ++ ' ' :: (p.predicate.toText.toList ++ ' ' :: p.object.toText.toList) := by
  simp [toText]

/-- The text of a pattern ends where it is seen to end. -/
theorem toText_append_inj {p q : TriplePattern} {xs ys : List Char} (hp : p.isUnbroken = true)
    (hq : q.isUnbroken = true) (hx : IsBreak xs) (hy : IsBreak ys)
    (h : p.toText.toList ++ xs = q.toText.toList ++ ys) : p = q ∧ xs = ys := by
  rw [isUnbroken, Bool.and_eq_true, Bool.and_eq_true] at hp hq
  simp only [toList_toText, List.append_assoc, List.cons_append] at h
  obtain ⟨hsubject, hbehind⟩ := Slot.toText_append_inj hp.1.1 hq.1.1 (isBreak_cons _) (isBreak_cons _) h
  obtain ⟨hpredicate, hlast⟩ := IriSlot.toText_append_inj hp.1.2 hq.1.2 (isBreak_cons _) (isBreak_cons _)
    (List.cons.inj hbehind).2
  obtain ⟨hobject, hxy⟩ := Slot.toText_append_inj hp.2 hq.2 hx hy (List.cons.inj hlast).2
  have hpq : p = q := by
    cases p
    cases q
    rw [TriplePattern.mk.injEq]
    exact ⟨hsubject, hpredicate, hobject⟩
  exact ⟨hpq, hxy⟩

end TriplePattern

namespace CacheKey

/-- What stands behind the text of the first of some patterns. -/
def rest (ps : List TriplePattern) : List Char := ps.flatMap fun p => ' ' :: '.' :: ' ' :: p.toText.toList

/-- What follows a pattern starts with a break. -/
theorem isBreak_rest (ps : List TriplePattern) : IsBreak (rest ps) := by
  cases ps with
  | nil => exact isBreak_nil
  | cons p ps => exact isBreak_cons _

/-- The text of several patterns is that of the first and the rest. -/
theorem toList_patterns_cons (graph : Iri) (p : TriplePattern) (ps : List TriplePattern) :
    (ofPatterns graph (p :: ps)).patterns.toList = p.toText.toList ++ rest ps := by
  rw [ofPatterns, String.toList_intercalate]
  induction ps generalizing p with
  | nil => simp [rest]
  | cons q ps ih =>
    have hq := ih q
    rw [List.map_cons, List.map_cons] at hq ⊢
    rw [List.map_cons, List.map_cons, List.intercalate_cons_cons, hq]
    simp [rest]

/-- Unbroken patterns are told apart by the text of the rest. -/
theorem rest_injective {ps qs : List TriplePattern} (hp : ∀ p ∈ ps, p.isUnbroken = true)
    (hq : ∀ q ∈ qs, q.isUnbroken = true) (h : rest ps = rest qs) : ps = qs := by
  induction ps generalizing qs with
  | nil =>
    cases qs with
    | nil => rfl
    | cons q qs => cases h
  | cons p ps ih =>
    cases qs with
    | nil => cases h
    | cons q qs =>
      obtain ⟨hp, hps⟩ := List.forall_mem_cons.1 hp
      obtain ⟨hq, hqs⟩ := List.forall_mem_cons.1 hq
      have hlist : p.toText.toList ++ rest ps = q.toText.toList ++ rest qs := by
        simpa [rest] using h
      obtain ⟨rfl, hrest⟩ := TriplePattern.toText_append_inj hp hq (isBreak_rest ps) (isBreak_rest qs) hlist
      rw [ih hps hqs hrest]

/-- Different patterns without blanks in their names have different texts. -/
theorem patterns_injective {g g' : Iri} {ps qs : List TriplePattern} (hp : ∀ p ∈ ps, p.isUnbroken = true)
    (hq : ∀ q ∈ qs, q.isUnbroken = true) (h : (ofPatterns g ps).patterns = (ofPatterns g' qs).patterns) : ps = qs := by
  have hlist := congrArg String.toList h
  have hempty : ∀ (g : Iri) (p : TriplePattern) (ps : List TriplePattern),
      (ofPatterns g (p :: ps)).patterns.toList ≠ [] := by
    intro g p ps
    rw [toList_patterns_cons]
    simp [TriplePattern.toList_toText]
  cases ps with
  | nil =>
    cases qs with
    | nil => rfl
    | cons q qs => exact absurd hlist.symm (hempty g' q qs)
  | cons p ps =>
    cases qs with
    | nil => exact absurd hlist (hempty g p ps)
    | cons q qs =>
      rw [toList_patterns_cons, toList_patterns_cons] at hlist
      refine rest_injective hp hq ?_
      simpa [rest] using hlist

end CacheKey

end SparqlAlgebra

import Std.Data.TreeSet
import SparqlAlgebra.Rdf.Term

/-!
# Sets of values with keys

A value with a key is told apart from others by a list of texts, so that sets of such values can be kept in
ascending order of their keys. A list loses its repetitions by one walk along such a set.
-/

namespace SparqlAlgebra

/-- Types whose values are told apart by lists of texts. -/
class Keyed (α : Type) where
  key : α → List String
  key_injective : ∀ a b : α, key a = key b → a = b

/-- A text is its own key. -/
instance : Keyed String := ⟨fun s => [s], fun _ _ h => List.head_eq_of_cons_eq h⟩

namespace Term

/-- The three texts of a term: its kind, its main text, and its datatype or language. -/
def key : Term → List String
  | .iri i => ["i", i.text, ""]
  | .blank b => ["b", b.label, ""]
  | .literal (.typed s d) => ["t", s, d.text]
  | .literal (.tagged s l) => ["l", s, l]

/-- The key of a term has three parts. -/
theorem length_key (t : Term) : t.key.length = 3 := by
  rcases t with _ | _ | (_ | _) <;> rfl

/-- Terms with the same key are the same. -/
theorem key_injective (a b : Term) (h : a.key = b.key) : a = b := by
  rcases a with ⟨⟨_⟩⟩ | ⟨⟨_⟩⟩ | (⟨_, ⟨_⟩⟩ | _) <;> rcases b with ⟨⟨_⟩⟩ | ⟨⟨_⟩⟩ | (⟨_, ⟨_⟩⟩ | _) <;>
    simp_all [key]

end Term

/-- Terms are told apart by their keys. -/
instance : Keyed Term := ⟨Term.key, Term.key_injective⟩

/-- The texts of a term that may be absent. -/
def optionalKey : Option Term → List String
  | none => ["", "", ""]
  | some t => t.key

/-- The key of an optional term has three parts, as that of a term. -/
theorem length_optionalKey (t : Option Term) : (optionalKey t).length = 3 := by
  cases t
  · rfl
  · exact Term.length_key _

/-- The key of an optional term has three parts and tells apart whether there is a term. -/
theorem optionalKey_injective (a b : Option Term) (h : optionalKey a = optionalKey b) : a = b := by
  cases a with
  | none =>
    cases b with
    | none => rfl
    | some b => rcases b with _ | _ | (_ | _) <;> simp [optionalKey, Term.key] at h
  | some a =>
    cases b with
    | none => rcases a with _ | _ | (_ | _) <;> simp [optionalKey, Term.key] at h
    | some b => exact congrArg some (Term.key_injective a b h)

/-- Lists of optional terms are told apart by their keys, since each key has three parts. -/
theorem flatMap_optionalKey_injective (as bs : List (Option Term))
    (h : as.flatMap optionalKey = bs.flatMap optionalKey) : as = bs := by
  induction as generalizing bs with
  | nil =>
    cases bs with
    | nil => rfl
    | cons b bs =>
      have := congrArg List.length h
      simp only [List.flatMap_nil, List.flatMap_cons, List.length_append, length_optionalKey, List.length_nil] at this
      omega
  | cons a as ih =>
    cases bs with
    | nil =>
      have := congrArg List.length h
      simp only [List.flatMap_nil, List.flatMap_cons, List.length_append, length_optionalKey, List.length_nil] at this
      omega
    | cons b bs =>
      simp only [List.flatMap_cons] at h
      have h := List.append_inj h (by simp [length_optionalKey])
      rw [optionalKey_injective a b h.1, ih bs h.2]

/-- Lists of optional terms are keys. -/
instance : Keyed (List (Option Term)) := ⟨List.flatMap optionalKey, flatMap_optionalKey_injective⟩

/-- A pair of terms has the texts of both. -/
instance : Keyed (Term × Term) where
  key x := x.1.key ++ x.2.key
  key_injective a b h := by
    have h := List.append_inj h (by simp [Term.length_key])
    exact Prod.ext (Term.key_injective _ _ h.1) (Term.key_injective _ _ h.2)

namespace Triple

/-- The texts of the three terms. -/
def key (t : Triple) : List String := t.subject.toTerm.key ++ t.predicate.text :: t.object.key

/-- Triples with the same key are the same. -/
theorem key_injective (a b : Triple) (h : a.key = b.key) : a = b := by
  have h := List.append_inj h (by simp [Term.length_key])
  have hp := List.cons.inj h.2
  have hs := congrArg Term.toResource? (Term.key_injective _ _ h.1)
  rcases a with ⟨sa, ⟨pa⟩, oa⟩
  rcases b with ⟨sb, ⟨pb⟩, ob⟩
  simp_all [Term.key_injective oa ob hp.2]

end Triple

/-- Triples are told apart by their keys. -/
instance : Keyed Triple := ⟨Triple.key, Triple.key_injective⟩

/-- A set of values with keys. -/
structure KeySet (α : Type) [Keyed α] where
  /-- The keys of the values that are in the set. -/
  keys : Std.TreeSet (List String)

namespace KeySet

variable {α κ : Type} [Keyed κ]

/-- The set without keys. -/
def empty : KeySet κ := ⟨∅⟩

/-- The set without keys, unless another one is asked for. -/
instance : Inhabited (KeySet κ) := ⟨empty⟩

/-- Whether the key of a value is in the set. -/
def contains (s : KeySet κ) (x : κ) : Bool := s.keys.contains (Keyed.key x)

/-- Adds the key of a value. -/
def insert (s : KeySet κ) (x : κ) : KeySet κ := ⟨s.keys.insert (Keyed.key x)⟩

/-- Takes the key of a value away. -/
def erase (s : KeySet κ) (x : κ) : KeySet κ := ⟨s.keys.erase (Keyed.key x)⟩

/-- Values have the same key only if they are the same. -/
theorem key_inj {x y : κ} : Keyed.key x = Keyed.key y ↔ x = y :=
  ⟨Keyed.key_injective x y, congrArg _⟩

/-- The empty set contains nothing. -/
@[simp] theorem contains_empty (x : κ) : (empty : KeySet κ).contains x = false := by
  simp [contains, empty]

/-- A set with a value contains this and what it contained before. -/
@[simp] theorem contains_insert (s : KeySet κ) (x y : κ) :
    (s.insert x).contains y = true ↔ x = y ∨ s.contains y = true := by
  simp [contains, insert, Std.TreeSet.contains_insert, key_inj]

/-- A set without a value contains what it contained before, apart from this. -/
@[simp] theorem contains_erase (s : KeySet κ) (x y : κ) :
    (s.erase x).contains y = true ↔ x ≠ y ∧ s.contains y = true := by
  simp [contains, erase, Std.TreeSet.contains_erase, key_inj]

/-- The set with the values of a list added. -/
def insertAll (s : KeySet κ) (xs : List κ) : KeySet κ := xs.foldl insert s

/-- A set with some values contains these and what it contained before. -/
@[simp] theorem contains_insertAll (s : KeySet κ) (xs : List κ) (y : κ) :
    (s.insertAll xs).contains y = true ↔ y ∈ xs ∨ s.contains y = true := by
  induction xs generalizing s with
  | nil => simp [insertAll]
  | cons x xs ih =>
    rw [insertAll, List.foldl_cons, ← insertAll, ih]
    simp [eq_comm (a := y) (b := x), or_assoc, or_left_comm]

/-- The set of the values of a list. -/
def ofList (xs : List κ) : KeySet κ := empty.insertAll xs

/-- The set of a list contains its items. -/
@[simp] theorem contains_ofList (xs : List κ) (y : κ) : (ofList xs).contains y = true ↔ y ∈ xs := by
  simp [ofList]

/-- The set of a list contains nothing but its items. -/
@[simp] theorem contains_ofList_eq_false (xs : List κ) (y : κ) :
    (ofList xs).contains y = false ↔ y ∉ xs := by
  rw [← contains_ofList xs y, Bool.not_eq_true]

/-- The set without the values of a list. -/
def eraseAll (s : KeySet κ) (xs : List κ) : KeySet κ := xs.foldl erase s

/-- A set without some values contains what it contained before, apart from these. -/
@[simp] theorem contains_eraseAll (s : KeySet κ) (xs : List κ) (y : κ) :
    (s.eraseAll xs).contains y = true ↔ y ∉ xs ∧ s.contains y = true := by
  induction xs generalizing s with
  | nil => simp [eraseAll]
  | cons x xs ih =>
    rw [eraseAll, List.foldl_cons, ← eraseAll, ih]
    simp [eq_comm (a := y) (b := x), and_assoc, and_left_comm]

/-- The values of a list whose keys are not in the set, each key once, after those found before, which are
given in reverse. -/
def firstsFrom (f : α → κ) (seen : KeySet κ) (found : List α) : List α → List α
  | [] => found.reverse
  | x :: xs =>
    if seen.contains (f x) then firstsFrom f seen found xs
    else firstsFrom f (seen.insert (f x)) (x :: found) xs

/-- What has been found before stays in front of what is found later. -/
theorem firstsFrom_eq (f : α → κ) (seen : KeySet κ) (found xs : List α) :
    firstsFrom f seen found xs = found.reverse ++ firstsFrom f seen [] xs := by
  induction xs generalizing seen found with
  | nil => simp [firstsFrom]
  | cons x xs ih =>
    unfold firstsFrom
    split
    · exact ih seen found
    · rw [ih _ (x :: found), ih _ [x]]
      simp

/-- Keeps the first value of each key. -/
def firstsOn (f : α → κ) (xs : List α) : List α := firstsFrom f empty [] xs

end KeySet

/-- Keeps each value at its first occurrence. -/
def firsts {κ : Type} [Keyed κ] (xs : List κ) : List κ := KeySet.firstsOn id xs

namespace KeySet

variable {κ : Type} [Keyed κ]

/-- Found are the items whose keys have not been seen. -/
theorem mem_firstsFrom (seen : KeySet κ) (xs : List κ) (y : κ) :
    y ∈ firstsFrom id seen [] xs ↔ y ∈ xs ∧ seen.contains y = false := by
  induction xs generalizing seen with
  | nil => simp [firstsFrom]
  | cons x xs ih =>
    unfold firstsFrom
    split
    · rename_i h
      rw [ih, List.mem_cons]
      refine ⟨fun hy => ⟨.inr hy.1, hy.2⟩, fun hy => ⟨hy.1.resolve_left ?_, hy.2⟩⟩
      rintro rfl
      simp_all
    · rename_i h
      rw [firstsFrom_eq, List.mem_append, List.mem_cons, ih]
      simp only [id_eq, Bool.not_eq_true] at h
      by_cases hxy : x = y
      · subst hxy
        simp [h]
      · have hc : (seen.insert x).contains y = seen.contains y := by
          rw [Bool.eq_iff_iff, contains_insert]
          simp [hxy]
        simp [hc, eq_comm (a := y), hxy]

/-- No item is found twice. -/
theorem nodup_firstsFrom (seen : KeySet κ) (xs : List κ) : (firstsFrom id seen [] xs).Nodup := by
  induction xs generalizing seen with
  | nil => simp [firstsFrom]
  | cons x xs ih =>
    unfold firstsFrom
    split
    · exact ih seen
    · rw [firstsFrom_eq]
      refine List.nodup_cons.2 ⟨fun h => ?_, ih _⟩
      have := ((mem_firstsFrom _ xs x).1 h).2
      rw [← Bool.not_eq_true, id_eq, contains_insert] at this
      exact this (.inl rfl)

end KeySet

/-- The first occurrences are those of all items. -/
@[simp] theorem mem_firsts {κ : Type} [Keyed κ] {xs : List κ} {y : κ} : y ∈ firsts xs ↔ y ∈ xs := by
  simp [firsts, KeySet.firstsOn, KeySet.mem_firstsFrom]

/-- No item is among them twice. -/
theorem nodup_firsts {κ : Type} [Keyed κ] (xs : List κ) : (firsts xs).Nodup := KeySet.nodup_firstsFrom _ xs

end SparqlAlgebra

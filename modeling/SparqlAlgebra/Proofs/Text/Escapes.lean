import SparqlAlgebra.Function.Call
import SparqlAlgebra.Proofs.Text.Codes
import SparqlAlgebra.Proofs.Update.Templates

/-!
# Texts written with escapes

Two functions write a text with letters and digits only, and escape all other characters. Percent encoding writes every
byte that it escapes with two digits, so the bytes can be read back. A label of a blank node writes the code point of a
character with as many digits as it takes, and the digits may run on into the text behind; texts that are written alike
are those that differ just in where such a code ends.
-/

namespace SparqlAlgebra

/-! ## Labels of blank nodes -/

namespace Text

/-- Two texts are the same, except that the code of an escaped character in one of them may be the code of an escaped
character in the other one with the digits that follow it there. -/
inductive Confusable : List Char → List Char → Prop
  | nil : Confusable [] []
  | cons {s t : List Char} (c : Char) : Confusable s t → Confusable (c :: s) (c :: t)
  | code {s t ds : List Char} {c e : Char} : c.isAlphanum = false → e.isAlphanum = false →
      Nat.toDigits 16 e.toNat = Nat.toDigits 16 c.toNat ++ ds → Confusable s t → Confusable (c :: (ds ++ s)) (e :: t)
  | symm {s t : List Char} : Confusable s t → Confusable t s

variable {s t ds r : List Char} {c e : Char} {n : Nat}

/-- A digit as it stands in the code of a character. -/
def isCodeDigit (c : Char) : Bool := c.isDigit || ('a' ≤ c && c ≤ 'f')

/-- The hexadecimal digits of a number are code digits. -/
theorem isCodeDigit_of_mem (h : c ∈ Nat.toDigits 16 n) : isCodeDigit c = true := by
  have hdigit : ∀ n < 16, isCodeDigit (Nat.digitChar n) = true := by decide
  induction n using Nat.strongRecOn with
  | ind n ih =>
    by_cases hn : n < 16
    · rw [Nat.toDigits_of_lt_base hn, List.mem_singleton] at h
      rw [h]
      exact hdigit n hn
    · rw [Nat.toDigits_of_base_le (by decide) (by omega), List.mem_append, List.mem_singleton] at h
      rcases h with h | rfl
      · exact ih (n / 16) (by omega) h
      · exact hdigit _ (Nat.mod_lt n (by decide))

/-- What is left of a code consists of its digits. -/
theorem isCodeDigit_of_append {pre : List Char} (h : Nat.toDigits 16 n = pre ++ ds) :
    ∀ d ∈ ds, isCodeDigit d = true := by
  intro d hd
  refine isCodeDigit_of_mem (n := n) ?_
  rw [h]
  exact List.mem_append_right pre hd

/-- A letter or digit, by its code point. -/
theorem isAlphanum_iff : c.isAlphanum = true ↔
    (65 ≤ c.toNat ∧ c.toNat ≤ 90 ∨ 97 ≤ c.toNat ∧ c.toNat ≤ 122) ∨ 48 ≤ c.toNat ∧ c.toNat ≤ 57 := by
  unfold Char.isAlphanum Char.isAlpha Char.isUpper Char.isLower Char.isDigit
  simp only [Bool.or_eq_true, Bool.and_eq_true, decide_eq_true_eq, ge_iff_le, UInt32.le_iff_toNat_le]
  rfl

/-- Code digits are alphanumeric, so they are kept as they are in a label. -/
theorem isAlphanum_of_isCodeDigit (h : isCodeDigit c = true) : c.isAlphanum = true := by
  rw [isCodeDigit, Bool.or_eq_true, Bool.and_eq_true, decide_eq_true_iff, decide_eq_true_iff] at h
  rcases h with h | ⟨hlow, hhigh⟩
  · rw [Char.isAlphanum, h, Bool.or_true]
  · have hlow : 97 ≤ c.toNat := hlow
    have hhigh : c.toNat ≤ 102 := hhigh
    rw [isAlphanum_iff]
    omega

/-- Numbers with the same hexadecimal digits are equal. -/
theorem toDigits_injective {m n : Nat} (h : Nat.toDigits 16 m = Nat.toDigits 16 n) : m = n := by
  rw [← Drawn.digitsValue_toDigits m, h, Drawn.digitsValue_toDigits]

/-- An alphanumeric character stands for itself in a label. -/
theorem labelChar_of_alphanum (hc : c.isAlphanum = true) : labelChar c = [c] := if_pos hc

/-- Any other character is an underscore and its code point. -/
theorem labelChar_of_escaped (hc : c.isAlphanum = false) : labelChar c = '_' :: Nat.toDigits 16 c.toNat := by
  rw [labelChar, hc]
  rfl

/-- A letter or digit does not begin an escape. -/
theorem ne_underscore (hc : c.isAlphanum = true) : c ≠ '_' := by
  rintro rfl
  cases hc

/-- No character is left out of a label. -/
theorem labelChar_ne_nil (c : Char) : labelChar c ≠ [] := by
  rw [labelChar]
  split <;> nofun

/-- The digits of codes stand for themselves. -/
theorem flatMap_labelChar (h : ∀ c ∈ ds, isCodeDigit c = true) : ds.flatMap labelChar = ds := by
  induction ds with
  | nil => rfl
  | cons d ds ih =>
    rw [List.flatMap_cons, labelChar_of_alphanum (isAlphanum_of_isCodeDigit (h d List.mem_cons_self)),
      ih fun c hc => h c (List.mem_cons_of_mem d hc), List.singleton_append]

/-- Such digits that a label begins with are those that its text begins with. -/
theorem exists_of_flatMap_labelChar (hds : ∀ c ∈ ds, isCodeDigit c = true) (h : s.flatMap labelChar = ds ++ r) :
    ∃ s', s = ds ++ s' ∧ s'.flatMap labelChar = r := by
  induction ds generalizing s with
  | nil => exact ⟨s, rfl, h⟩
  | cons d ds ih =>
    have hd := isAlphanum_of_isCodeDigit (hds d List.mem_cons_self)
    cases s with
    | nil => cases h
    | cons c s =>
      rw [List.flatMap_cons] at h
      cases hc : c.isAlphanum with
      | true =>
        rw [labelChar_of_alphanum hc] at h
        obtain ⟨rfl, hrest⟩ := List.cons.inj h
        obtain ⟨s', rfl, hs'⟩ := ih (fun c hc => hds c (List.mem_cons_of_mem _ hc)) hrest
        exact ⟨s', rfl, hs'⟩
      | false =>
        rw [labelChar_of_escaped hc] at h
        exact absurd (List.cons.inj h).1.symm (ne_underscore hd)

/-- Two texts that are written alike begin with the same character, or with two escaped ones of which one has the longer
code; the rest of it then stands in the other text. -/
theorem heads_of_flatMap (h : (c :: s).flatMap labelChar = (e :: t).flatMap labelChar) :
    (c = e ∧ s.flatMap labelChar = t.flatMap labelChar) ∨
    (c.isAlphanum = false ∧ e.isAlphanum = false ∧ ∃ ds r,
      (Nat.toDigits 16 e.toNat = Nat.toDigits 16 c.toNat ++ ds ∧ s = ds ++ r ∧
        r.flatMap labelChar = t.flatMap labelChar) ∨
      (Nat.toDigits 16 c.toNat = Nat.toDigits 16 e.toNat ++ ds ∧ t = ds ++ r ∧
        s.flatMap labelChar = r.flatMap labelChar)) := by
  rw [List.flatMap_cons, List.flatMap_cons] at h
  cases hc : c.isAlphanum with
  | true =>
    cases he : e.isAlphanum with
    | true =>
      rw [labelChar_of_alphanum hc, labelChar_of_alphanum he] at h
      exact .inl (List.cons.inj h)
    | false =>
      rw [labelChar_of_alphanum hc, labelChar_of_escaped he] at h
      exact absurd (List.cons.inj h).1 (ne_underscore hc)
  | false =>
    cases he : e.isAlphanum with
    | true =>
      rw [labelChar_of_escaped hc, labelChar_of_alphanum he] at h
      exact absurd (List.cons.inj h).1.symm (ne_underscore he)
    | false =>
      rw [labelChar_of_escaped hc, labelChar_of_escaped he] at h
      refine .inr ⟨rfl, rfl, ?_⟩
      rcases List.append_eq_append_iff.1 (List.cons.inj h).2 with ⟨ds, hdigits, hs⟩ | ⟨ds, hdigits, ht⟩
      · obtain ⟨s', rfl, hs'⟩ := exists_of_flatMap_labelChar (isCodeDigit_of_append hdigits) hs
        exact ⟨ds, s', .inl ⟨hdigits, rfl, hs'⟩⟩
      · obtain ⟨t', rfl, ht'⟩ := exists_of_flatMap_labelChar (isCodeDigit_of_append hdigits) ht
        exact ⟨ds, t', .inr ⟨hdigits, rfl, ht'.symm⟩⟩

/-- What is written alike differs just in where the code of an escaped character ends. -/
theorem confusable_of_flatMap (h : s.flatMap labelChar = t.flatMap labelChar) : Confusable s t := by
  induction hlength : s.length using Nat.strongRecOn generalizing s t with
  | ind n ih =>
    cases s with
    | nil =>
      cases t with
      | nil => exact .nil
      | cons e t => exact absurd (List.append_eq_nil_iff.1 h.symm).1 (labelChar_ne_nil e)
    | cons c s =>
      cases t with
      | nil => exact absurd (List.append_eq_nil_iff.1 h).1 (labelChar_ne_nil c)
      | cons e t =>
        rw [List.length_cons] at hlength
        rcases heads_of_flatMap h with ⟨rfl, hst⟩ | ⟨hc, he, ds, r, ⟨hdigits, rfl, hrt⟩ | ⟨hdigits, rfl, hsr⟩⟩
        · exact .cons c (ih s.length (by omega) hst rfl)
        · rw [List.length_append] at hlength
          exact .code hc he hdigits (ih r.length (by omega) hrt rfl)
        · exact .symm (.code he hc hdigits (.symm (ih s.length (by omega) hsr rfl)))

/-- Confusable texts are written alike. -/
theorem Confusable.flatMap_eq (h : Confusable s t) : s.flatMap labelChar = t.flatMap labelChar := by
  induction h with
  | nil => rfl
  | cons c _ ih => rw [List.flatMap_cons, List.flatMap_cons, ih]
  | @code s t ds c e hc he hdigits _ ih =>
    have hds := flatMap_labelChar (isCodeDigit_of_append hdigits)
    rw [List.flatMap_cons, List.flatMap_append, List.flatMap_cons, labelChar_of_escaped hc, labelChar_of_escaped he,
      hdigits, hds, ih, List.cons_append, List.cons_append, List.append_assoc]
  | symm _ ih => exact ih.symm

/-- No escaped character is followed by what could be a digit of its code. -/
def EndsCodes (s : List Char) : Prop := s.IsChain fun c d => c.isAlphanum = true ∨ isCodeDigit d = false

/-- Whether codes come to an end is decided along the list. -/
instance (s : List Char) : Decidable (EndsCodes s) := inferInstanceAs (Decidable (s.IsChain _))

/-- Texts in which the codes end by themselves are not confused. -/
theorem Confusable.eq (h : Confusable s t) (hs : EndsCodes s) (ht : EndsCodes t) : s = t := by
  induction h with
  | nil => rfl
  | cons c _ ih => rw [ih hs.of_cons ht.of_cons]
  | @code s t ds c e hc he hdigits _ ih =>
    cases ds with
    | nil =>
      rw [List.append_nil] at hdigits
      rw [Char.toNat_inj.1 (toDigits_injective hdigits), ih hs.of_cons ht.of_cons, List.nil_append]
    | cons d ds =>
      have hd : isCodeDigit d = true := isCodeDigit_of_append hdigits d List.mem_cons_self
      have hends := (List.isChain_cons_cons.1 hs).1
      rw [hc, hd] at hends
      rcases hends with h | h <;> cases h
  | symm _ ih => exact (ih ht hs).symm

/-- A label tells texts apart that cannot be confused, and no others. -/
theorem toLabel_eq_iff {a b : String} : toLabel a = toLabel b ↔ Confusable a.toList b.toList := by
  rw [toLabel, toLabel, String.ofList_inj, List.cons_inj_right]
  exact ⟨confusable_of_flatMap, Confusable.flatMap_eq⟩

example : toLabel " 0" = toLabel "\u0200" := by decide

end Text

namespace Builtin

/-- A text always has a blank node. Two texts have the same one if and only if they can be confused, and not otherwise
than being the same if no escaped character in them is followed by what could be a digit of its code. -/
theorem call_bnode (a b : String) :
    (∃ n, Builtin.bnode.call [.string a] = some (.blank n)) ∧
    (Builtin.bnode.call [.string a] = Builtin.bnode.call [.string b] ↔ Text.Confusable a.toList b.toList) ∧
    (Text.EndsCodes a.toList → Text.EndsCodes b.toList →
      (Builtin.bnode.call [.string a] = Builtin.bnode.call [.string b] ↔ a = b)) := by
  have hcall : ∀ s : String, Builtin.bnode.call [.string s] = some (.blank ⟨Text.toLabel s⟩) := fun _ => rfl
  have hsame : Builtin.bnode.call [.string a] = Builtin.bnode.call [.string b] ↔
      Text.Confusable a.toList b.toList := by
    rw [hcall, hcall, Option.some.injEq, Term.blank.injEq, BlankNode.mk.injEq, Text.toLabel_eq_iff]
  refine ⟨⟨_, hcall a⟩, hsame, fun ha hb => ⟨fun h => ?_, fun h => by rw [h]⟩⟩
  exact String.toList_inj.1 ((hsame.1 h).eq ha hb)

/-- Two texts with a mark between the same letters have different blank nodes. -/
theorem call_bnode_marks :
    Text.EndsCodes "x y".toList ∧ Text.EndsCodes "x_y".toList ∧
      Builtin.bnode.call [.string "x y"] ≠ Builtin.bnode.call [.string "x_y"] := by
  have hspace : Text.EndsCodes "x y".toList := by decide
  have hscore : Text.EndsCodes "x_y".toList := by decide
  exact ⟨hspace, hscore, mt ((call_bnode _ _).2.2 hspace hscore).1 (by decide)⟩

end Builtin

/-! ## Percent encoding -/

namespace Percent

/-- A character that needs no escape. -/
def IsUnreserved (c : Char) : Prop := c.isAlphanum = true ∨ c ∈ ['-', '_', '.', '~']

/-- A digit of an escape, in upper case. -/
def IsUpperHex (c : Char) : Prop := c ∈ "0123456789ABCDEF".toList

/-- A text of unreserved characters and of escapes of two digits. -/
inductive Encoded : List Char → Prop
  | nil : Encoded []
  | unreserved {c : Char} {cs : List Char} : IsUnreserved c → Encoded cs → Encoded (c :: cs)
  | escape {x y : Char} {cs : List Char} : IsUpperHex x → IsUpperHex y → Encoded cs → Encoded ('%' :: x :: y :: cs)

/-- The value of a hexadecimal digit in either case. -/
def hexDigit? (c : Char) : Option Nat :=
  if c.isDigit then some (c.toNat - '0'.toNat)
  else if 'A' ≤ c ∧ c ≤ 'F' then some (c.toNat - 'A'.toNat + 10)
  else if 'a' ≤ c ∧ c ≤ 'f' then some (c.toNat - 'a'.toNat + 10)
  else none

/-- The bytes that a text stands for: an escape for one byte, and any other ASCII character for its own. -/
def decode? : List Char → Option (List UInt8)
  | [] => some []
  | c :: cs =>
    if c = '%' then
      match cs with
      | x :: y :: rest => do
        let high ← hexDigit? x
        let low ← hexDigit? y
        let bytes ← decode? rest
        return UInt8.ofNat (16 * high + low) :: bytes
      | _ => none
    else if c.toNat < 128 then (decode? cs).map (UInt8.ofNat c.toNat :: ·)
    else none

variable {b : UInt8} {bytes : List UInt8} {cs : List Char}

/-- The digits written are upper-case, and they are read back. -/
theorem hexDigit_spec : ∀ n < 16, IsUpperHex (hexDigit n) ∧ hexDigit? (hexDigit n) = some n := by
  unfold IsUpperHex
  decide

/-- A byte is unreserved if the character it stands for is. -/
theorem isUnreserved_iff : isUnreserved b = true ↔ IsUnreserved (Char.ofNat b.toNat) := by
  simp [isUnreserved, IsUnreserved, or_assoc]

/-- Unreserved characters stand for their own bytes. -/
theorem IsUnreserved.decode?_cons {c : Char} (h : IsUnreserved c) (cs : List Char) :
    decode? (c :: cs) = (decode? cs).map (UInt8.ofNat c.toNat :: ·) := by
  have hascii : c.toNat < 128 ∧ c ≠ '%' := by
    rcases h with h | h
    · rw [Text.isAlphanum_iff] at h
      refine ⟨by omega, ?_⟩
      rintro rfl
      revert h
      decide
    · simp only [List.mem_cons, List.not_mem_nil, or_false] at h
      obtain rfl | rfl | rfl | rfl := h <;> decide
  rw [decode?.eq_def]
  dsimp only
  rw [if_neg hascii.2, if_pos hascii.1]

/-- An escape stands for one byte. -/
theorem decode?_escape (b : UInt8) (cs : List Char) :
    decode? ('%' :: hexDigit (b.toNat / 16) :: hexDigit (b.toNat % 16) :: cs) = (decode? cs).map (b :: ·) := by
  have hlt := b.toNat_lt
  have hhigh := (hexDigit_spec (b.toNat / 16) (by omega)).2
  have hlow := (hexDigit_spec (b.toNat % 16) (by omega)).2
  rw [decode?, if_pos rfl]
  simp only [hhigh, hlow, Option.bind_eq_bind, Option.bind_some, Nat.div_add_mod, UInt8.ofNat_toNat]
  cases decode? cs <;> rfl

/-- What is written for a byte has the form of the encoding, and stands for the byte. -/
theorem encodeByte_spec (b : UInt8) (cs : List Char) :
    (Encoded cs → Encoded (encodeByte isUnreserved b ++ cs)) ∧
      decode? (encodeByte isUnreserved b ++ cs) = (decode? cs).map (b :: ·) := by
  rw [encodeByte]
  split
  · rename_i hsafe
    rw [isUnreserved_iff] at hsafe
    refine ⟨.unreserved hsafe, ?_⟩
    rw [List.singleton_append, hsafe.decode?_cons, toNat_ofByte, UInt8.ofNat_toNat]
  · have hlt := b.toNat_lt
    refine ⟨.escape (hexDigit_spec _ (by omega)).1 (hexDigit_spec _ (by omega)).1, ?_⟩
    exact decode?_escape b cs

/-- Whatever the bytes, their encoding is well formed. -/
theorem encoded_flatMap (bytes : List UInt8) : Encoded (bytes.flatMap (encodeByte isUnreserved)) := by
  induction bytes with
  | nil => exact .nil
  | cons b bytes ih =>
    rw [List.flatMap_cons]
    exact (encodeByte_spec b _).1 ih

/-- Decoding gives back the encoded bytes. -/
theorem decode?_flatMap (bytes : List UInt8) : decode? (bytes.flatMap (encodeByte isUnreserved)) = some bytes := by
  induction bytes with
  | nil => rw [List.flatMap_nil, decode?]
  | cons b bytes ih => rw [List.flatMap_cons, (encodeByte_spec b _).2, ih, Option.map_some]

/-- Encoding a text encodes its bytes in UTF-8. -/
theorem toList_encode (s : String) : (encode s).toList = s.toUTF8.toList.flatMap (encodeByte isUnreserved) :=
  String.toList_ofList

/-- Decoding gives back the bytes of the text. -/
theorem decode?_encode (s : String) : decode? (encode s).toList = some s.toUTF8.toList := by
  rw [toList_encode, decode?_flatMap]

/-- Encoded texts are equal only if the texts are. -/
theorem encode_inj {s t : String} : encode s = encode t ↔ s = t := by
  refine ⟨fun h => toUTF8_toList_injective ?_, congrArg encode⟩
  have hdecoded : decode? (encode s).toList = decode? (encode t).toList := by rw [h]
  rw [decode?_encode, decode?_encode] at hdecoded
  exact Option.some.inj hdecoded

/-- Encoding goes through concatenation. -/
theorem encode_append (s t : String) : encode (s ++ t) = encode s ++ encode t := by
  refine String.toList_inj.1 ?_
  rw [String.toList_append, toList_encode, toList_encode, toList_encode, toUTF8_toList_append, List.flatMap_append]

end Percent

namespace Builtin

/-- Encoding a text for a URI gives a plain string of unreserved characters and escapes, whatever its language. Decoding
it gives the bytes of the text, so different texts are encoded differently; and a text is encoded part by part. -/
theorem call_encodeForUri (a b : LocalText) :
    ∃ x y : String, Builtin.encodeForUri.call [a.toTerm] = some (.string x) ∧
      Builtin.encodeForUri.call [b.toTerm] = some (.string y) ∧
      Percent.Encoded x.toList ∧ Percent.decode? x.toList = some a.value.toUTF8.toList ∧
      (x = y ↔ a.value = b.value) ∧
      ∀ language, Builtin.encodeForUri.call [(LocalText.mk (a.value ++ b.value) language).toTerm] =
        some (.string (x ++ y)) := by
  have hcall : ∀ a : LocalText, Builtin.encodeForUri.call [a.toTerm] = some (.string (Percent.encode a.value)) := by
    intro a
    have hread : LocalText.ofTerm? a.toTerm = some a := LocalText.ofTerm?_eq_some_iff.2 rfl
    change onText (fun a => .string (Percent.encode a.value)) a.toTerm = _
    rw [onText, hread, Option.map_some]
  refine ⟨Percent.encode a.value, Percent.encode b.value, hcall a, hcall b, ?_, Percent.decode?_encode a.value,
    Percent.encode_inj, fun language => ?_⟩
  · rw [Percent.toList_encode]
    exact Percent.encoded_flatMap _
  · rw [hcall, Percent.encode_append]

end Builtin

end SparqlAlgebra

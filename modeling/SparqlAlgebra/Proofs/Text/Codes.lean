import Mathlib.Data.List.Basic
import Mathlib.Tactic.SplitIfs
import SparqlAlgebra.Solution

/-!
# Texts that can be read back

Quoted texts and form fields are written letter by letter. Each letter can be read off the front of what is written,
so that a text is told from every other one by its code, and where it ends can be seen.
-/

namespace SparqlAlgebra

variable {α β : Type}

/-- Codes of letters that can be read off the front determine the texts up to a mark that begins no code. -/
theorem flatMap_append_inj {f : α → List β} {read : List β → Option (α × List β)}
    (hread : ∀ a xs, read (f a ++ xs) = some (a, xs)) {z : β} (hz : ∀ xs, read (z :: xs) = none) {as bs : List α}
    {xs ys : List β} (h : as.flatMap f ++ z :: xs = bs.flatMap f ++ z :: ys) : as = bs ∧ xs = ys := by
  induction as generalizing bs with
  | nil =>
    cases bs with
    | nil => exact ⟨rfl, (List.cons.inj h).2⟩
    | cons b bs =>
      have hr := congrArg read h
      rw [List.flatMap_nil, List.nil_append, hz, List.flatMap_cons, List.append_assoc, hread] at hr
      cases hr
  | cons a as ih =>
    cases bs with
    | nil =>
      have hr := congrArg read h
      rw [List.flatMap_nil, List.nil_append, hz, List.flatMap_cons, List.append_assoc, hread] at hr
      cases hr
    | cons b bs =>
      have hr := congrArg read h
      rw [List.flatMap_cons, List.flatMap_cons, List.append_assoc, List.append_assoc, hread, hread,
        Option.some.injEq, Prod.mk.injEq] at hr
      obtain ⟨rfl, hrest⟩ := hr
      obtain ⟨rfl, rfl⟩ := ih hrest
      exact ⟨rfl, rfl⟩

/-- The value of a hexadecimal digit. -/
def hexValue (c : Char) : Nat := if c.isDigit then c.toNat - '0'.toNat else c.toNat - 'A'.toNat + 10

/-- The value of hexadecimal digits. -/
def hexListValue (cs : List Char) : Nat := cs.foldl (fun n c => 16 * n + hexValue c) 0

namespace QuotedText

/-- What is meant by the letter behind a backslash. -/
def unescape (c : Char) : Char :=
  if c = 'b' then '\x08' else if c = 't' then '\t' else if c = 'n' then '\n' else if c = 'f' then '\x0c'
  else if c = 'r' then '\r' else c

/-- Reads one character of a quoted text. -/
def readChar : List Char → Option (Char × List Char)
  | [] => none
  | c :: xs =>
    if c = '"' then none
    else if c = '\\' then
      match xs with
      | [] => none
      | e :: ys => if e = 'u' then some (Char.ofNat (hexListValue (ys.take 4)), ys.drop 4) else some (unescape e, ys)
    else some (c, xs)

/-- Four digits give back the number of a control character. -/
theorem upperHex_control : ∀ n < 128, (upperHex 4 n).length = 4 ∧ hexListValue (upperHex 4 n) = n := by
  decide +kernel

/-- A character is read back from its code, whatever follows. -/
theorem readChar_encodeChar (c : Char) (xs : List Char) : readChar (encodeChar c ++ xs) = some (c, xs) := by
  unfold encodeChar
  split_ifs with hb ht hn hf hr hq hs hu
  · rw [hb]
    rfl
  · rw [ht]
    rfl
  · rw [hn]
    rfl
  · rw [hf]
    rfl
  · rw [hr]
    rfl
  · rw [hq]
    rfl
  · rw [hs]
    rfl
  · have hc : c.toNat < 128 := by omega
    obtain ⟨hlen, hval⟩ := upperHex_control c.toNat hc
    have htake : (upperHex 4 c.toNat ++ xs).take 4 = upperHex 4 c.toNat := List.take_left' hlen
    have hdrop : (upperHex 4 c.toNat ++ xs).drop 4 = xs := List.drop_left' hlen
    simp [readChar, htake, hdrop, hval]
  · simp [readChar, hq, hs]

/-- A quoted text ends where it is seen to end. -/
theorem encode_append_inj {s t : String} {xs ys : List Char}
    (h : (encode s).toList ++ xs = (encode t).toList ++ ys) : s = t ∧ xs = ys := by
  have hcode : ∀ (s : String) (xs : List Char),
      (encode s).toList ++ xs = '"' :: (s.toList.flatMap encodeChar ++ '"' :: xs) := by
    intro s xs
    simp [encode]
  rw [hcode, hcode] at h
  obtain ⟨hst, hxy⟩ := flatMap_append_inj readChar_encodeChar (fun xs => by simp [readChar]) (List.cons.inj h).2
  exact ⟨String.toList_inj.1 hst, hxy⟩

end QuotedText

/-! ## Texts of terms -/

/-- Literals with the same text are the same. -/
theorem Literal.toText_injective (a b : Literal) (h : a.toText = b.toText) : a = b := by
  have hlist := congrArg String.toList h
  have htyped : ∀ (s : String) (d : Iri), ∃ xs : List Char,
      (Literal.typed s d).toText.toList = (QuotedText.encode s).toList ++ xs ∧
        ((d = Xsd.string ∧ xs = []) ∨ (d ≠ Xsd.string ∧ xs = '^' :: '^' :: '<' :: d.text.toList ++ ['>'])) := by
    intro s d
    by_cases hd : d = Xsd.string
    · exact ⟨[], by simp [Literal.toText, hd], .inl ⟨hd, rfl⟩⟩
    · exact ⟨'^' :: '^' :: '<' :: d.text.toList ++ ['>'], by simp [Literal.toText, hd, Iri.toText], .inr ⟨hd, rfl⟩⟩
  have htagged : ∀ s l : String,
      (Literal.tagged s l).toText.toList = (QuotedText.encode s).toList ++ '@' :: l.toList := by
    intro s l
    simp [Literal.toText]
  cases a with
  | typed s d =>
    obtain ⟨xs, hxs, hd⟩ := htyped s d
    cases b with
    | typed t e =>
      obtain ⟨ys, hys, he⟩ := htyped t e
      rw [hxs, hys] at hlist
      obtain ⟨rfl, rfl⟩ := QuotedText.encode_append_inj hlist
      rcases hd with ⟨rfl, rfl⟩ | ⟨hd, rfl⟩
      · rcases he with ⟨rfl, -⟩ | ⟨-, he⟩
        · rfl
        · cases he
      · rcases he with ⟨rfl, he⟩ | ⟨-, he⟩
        · cases he
        · have htext : d.text = e.text := String.toList_inj.1 (by simpa using he)
          rw [show d = e from congrArg Iri.mk htext]
    | tagged t l =>
      rw [hxs, htagged] at hlist
      obtain ⟨-, rfl⟩ := QuotedText.encode_append_inj hlist
      simp at hd
  | tagged s l =>
    cases b with
    | typed t e =>
      obtain ⟨ys, hys, he⟩ := htyped t e
      rw [htagged, hys] at hlist
      obtain ⟨-, rfl⟩ := QuotedText.encode_append_inj hlist
      simp at he
    | tagged t m =>
      rw [htagged, htagged] at hlist
      obtain ⟨rfl, hlm⟩ := QuotedText.encode_append_inj hlist
      rw [String.toList_inj.1 (List.cons.inj hlm).2]

/-- The first character tells the kinds of terms apart. -/
theorem Term.toText_injective (a b : Term) (h : a.toText = b.toText) : a = b := by
  have hlist := congrArg String.toList h
  have hiri : ∀ i : Iri, (Term.iri i).toText.toList = '<' :: (i.text.toList ++ ['>']) := by
    intro i
    simp [Term.toText, Iri.toText]
  have hblank : ∀ n : BlankNode, (Term.blank n).toText.toList = '_' :: ':' :: n.label.toList := by
    intro n
    simp [Term.toText, BlankNode.toText]
  have hliteral : ∀ l : Literal, (Term.literal l).toText.toList.head? = some '"' := by
    intro l
    cases l with
    | typed s d =>
      by_cases hd : d = Xsd.string <;> simp [Term.toText, Literal.toText, QuotedText.encode, hd]
    | tagged s l => simp [Term.toText, Literal.toText, QuotedText.encode]
  cases a with
  | iri i =>
    cases b with
    | iri j =>
      rw [hiri, hiri] at hlist
      have htext : i.text = j.text := String.toList_inj.1 (by simpa using hlist)
      rw [show i = j from congrArg Iri.mk htext]
    | blank n =>
      rw [hiri, hblank] at hlist
      simp at hlist
    | literal l =>
      have hhead := congrArg List.head? hlist
      rw [hliteral, hiri] at hhead
      simp at hhead
  | blank n =>
    cases b with
    | iri j =>
      rw [hiri, hblank] at hlist
      simp at hlist
    | blank m =>
      rw [hblank, hblank] at hlist
      have htext : n.label = m.label := String.toList_inj.1 (by simpa using hlist)
      rw [show n = m from congrArg BlankNode.mk htext]
    | literal l =>
      have hhead := congrArg List.head? hlist
      rw [hliteral, hblank] at hhead
      simp at hhead
  | literal l =>
    cases b with
    | iri j =>
      have hhead := congrArg List.head? hlist
      rw [hliteral, hiri] at hhead
      simp at hhead
    | blank m =>
      have hhead := congrArg List.head? hlist
      rw [hliteral, hblank] at hhead
      simp at hhead
    | literal m => rw [Literal.toText_injective l m h]

/-! ## Forms -/

/-- The bytes from an index on, as the loop collects them. -/
theorem ByteArray.toList_loop (bytes : ByteArray) (n : Nat) {i : Nat} (h : bytes.size - i = n) (found : List UInt8) :
    ByteArray.toList.loop bytes i found = found.reverse ++ bytes.data.toList.drop i := by
  induction n generalizing i found with
  | zero =>
    have hi : ¬ i < bytes.size := by omega
    have hlen : bytes.data.toList.length ≤ i := by
      simp only [Array.length_toList, ByteArray.size_data]
      omega
    rw [ByteArray.toList.loop, if_neg hi, List.drop_eq_nil_of_le hlen, List.append_nil]
  | succ n ih =>
    have hi : i < bytes.size := by omega
    have hlen : i < bytes.data.toList.length := by simpa using hi
    have hget : bytes.get! i = bytes.data.toList[i] := by
      simp [ByteArray.get!, hi]
    rw [ByteArray.toList.loop, if_pos hi, ih (by omega), List.drop_eq_getElem_cons hlen, hget, List.reverse_cons,
      List.append_assoc]
    rfl

/-- The bytes of an array as a list are those of its data. -/
theorem ByteArray.toList_eq (bytes : ByteArray) : bytes.toList = bytes.data.toList := ByteArray.toList_loop bytes _ rfl []

/-- A text is determined by its bytes. -/
theorem toUTF8_toList_injective {s t : String} (h : s.toUTF8.toList = t.toUTF8.toList) : s = t := by
  rw [ByteArray.toList_eq, ByteArray.toList_eq] at h
  exact String.toByteArray_inj.1 (ByteArray.ext (Array.toList_inj.1 h))

/-- The bytes of one text after another. -/
theorem toUTF8_toList_append (s t : String) : (s ++ t).toUTF8.toList = s.toUTF8.toList ++ t.toUTF8.toList := by
  simp only [ByteArray.toList_eq, String.toUTF8, String.toByteArray_append, ByteArray.data_append, Array.toList_append]

namespace Percent

/-- What is written for a byte of a form field. -/
def fieldByte (b : UInt8) : List Char := if b = 32 then ['+'] else encodeByte isFormSafe b

/-- Reads one byte of a form field. -/
def readByte : List Char → Option (UInt8 × List Char)
  | [] => none
  | c :: xs =>
    if c = '=' ∨ c = '&' then none
    else if c = '+' then some (32, xs)
    else if c = '%' then some (UInt8.ofNat (hexListValue (xs.take 2)), xs.drop 2)
    else some (UInt8.ofNat c.toNat, xs)

/-- The character of a byte has its number. -/
theorem toNat_ofByte (b : UInt8) : (Char.ofNat b.toNat).toNat = b.toNat := by
  have hlt := b.toNat_lt
  have hvalid : b.toNat.isValidChar := .inl (by omega)
  rw [Char.ofNat, dif_pos hvalid]
  rfl

/-- The value of the digit of a number below sixteen is the number. -/
theorem hexValue_hexDigit : ∀ n < 16, hexValue (hexDigit n) = n := by
  decide

/-- Bytes that stand for themselves are none of the marks. -/
theorem ne_of_isFormSafe {b : UInt8} (h : isFormSafe b = true) {c : Char}
    (hc : (c.isAlphanum || c == '-' || c == '_' || c == '.' || c == '*') = false) : Char.ofNat b.toNat ≠ c := by
  intro he
  rw [isFormSafe, he, hc] at h
  cases h

/-- A byte is read back from its code in a form, whatever follows. -/
theorem readByte_fieldByte (b : UInt8) (xs : List Char) : readByte (fieldByte b ++ xs) = some (b, xs) := by
  unfold fieldByte encodeByte
  split_ifs with hspace hsafe
  · rw [hspace]
    rfl
  · have hne : ∀ c : Char, (c.isAlphanum || c == '-' || c == '_' || c == '.' || c == '*') = false →
        Char.ofNat b.toNat ≠ c := fun c => ne_of_isFormSafe hsafe
    have heq := hne '=' (by decide)
    have hand := hne '&' (by decide)
    have hplus := hne '+' (by decide)
    have hpercent := hne '%' (by decide)
    simp [readByte, heq, hand, hplus, hpercent, toNat_ofByte]
  · have hlt := b.toNat_lt
    have hhigh := hexValue_hexDigit (b.toNat / 16) (by omega)
    have hlow := hexValue_hexDigit (b.toNat % 16) (by omega)
    have hvalue : 16 * (b.toNat / 16) + b.toNat % 16 = b.toNat := Nat.div_add_mod b.toNat 16
    simp [readByte, hexListValue, hhigh, hlow, hvalue]

/-- A field ends where it is seen to end. -/
theorem encodeField_append_inj {z : Char} (hz : z = '=' ∨ z = '&') {s t : String} {xs ys : List Char}
    (h : (encodeField s).toList ++ z :: xs = (encodeField t).toList ++ z :: ys) : s = t ∧ xs = ys := by
  have hcode : ∀ s : String, (encodeField s).toList = s.toUTF8.toList.flatMap fieldByte := by
    intro s
    rw [encodeField, String.toList_ofList]
    rfl
  rw [hcode, hcode] at h
  obtain ⟨hst, hxy⟩ := flatMap_append_inj readByte_fieldByte (fun xs => by simp [readByte, hz]) h
  exact ⟨toUTF8_toList_injective hst, hxy⟩

/-- What is written for a name with its value, up to the mark behind it. -/
def fieldText (x : String × String) : List Char := (encodeField x.1).toList ++ '=' :: (encodeField x.2).toList

/-- Fields are told apart by their text in a form: the first separator ends one. -/
theorem fieldText_append_inj {x y : String × String} {xs ys : List Char}
    (h : fieldText x ++ '&' :: xs = fieldText y ++ '&' :: ys) : x = y ∧ xs = ys := by
  rw [fieldText, fieldText, List.append_assoc, List.append_assoc] at h
  obtain ⟨hname, hrest⟩ := encodeField_append_inj (.inl rfl) h
  obtain ⟨hvalue, hxy⟩ := encodeField_append_inj (.inr rfl) hrest
  exact ⟨Prod.ext hname hvalue, hxy⟩

/-- A form is its fields, separated. -/
theorem toList_encodeForm (fields : List (String × String)) :
    (encodeForm fields).toList = ['&'].intercalate (fields.map fieldText) := by
  rw [encodeForm, String.toList_intercalate, List.map_map]
  congr 1
  refine List.map_congr_left fun x _ => ?_
  simp [fieldText]

/-- No field has an empty text. -/
theorem fieldText_ne_nil (x : String × String) : fieldText x ≠ [] := by
  simp [fieldText]

/-- A form that is not empty, with a mark behind it, is a sequence of fields with marks behind them. -/
theorem intercalate_append_mark {x : String × String} {fields : List (String × String)} :
    ['&'].intercalate ((x :: fields).map fieldText) ++ ['&'] = (x :: fields).flatMap fun x => fieldText x ++ ['&'] := by
  induction fields generalizing x with
  | nil => simp
  | cons y fields ih =>
    rw [List.map_cons, List.map_cons, List.intercalate_cons_cons, ← List.map_cons, List.append_assoc, ih]
    simp

/-- Forms with the same text have the same fields. -/
theorem encodeForm_injective {xs ys : List (String × String)} (h : encodeForm xs = encodeForm ys) : xs = ys := by
  have hlist := congrArg String.toList h
  rw [toList_encodeForm, toList_encodeForm] at hlist
  have hempty : ∀ x (fields : List (String × String)), ['&'].intercalate ((x :: fields).map fieldText) ≠ [] := by
    intro x fields hn
    cases fields with
    | nil => simp [fieldText_ne_nil] at hn
    | cons y fields => simp at hn
  have hfields : ∀ xs ys : List (String × String),
      (xs.flatMap fun x => fieldText x ++ ['&']) = (ys.flatMap fun x => fieldText x ++ ['&']) → xs = ys := by
    intro xs
    induction xs with
    | nil =>
      intro ys hxy
      cases ys with
      | nil => rfl
      | cons y ys => simp at hxy
    | cons x xs ih =>
      intro ys hxy
      cases ys with
      | nil => simp at hxy
      | cons y ys =>
        simp only [List.flatMap_cons, List.append_assoc, List.singleton_append] at hxy
        obtain ⟨rfl, hrest⟩ := fieldText_append_inj hxy
        rw [ih ys hrest]
  cases xs with
  | nil =>
    cases ys with
    | nil => rfl
    | cons y ys => exact absurd hlist.symm (hempty y ys)
  | cons x xs =>
    cases ys with
    | nil => exact absurd hlist (hempty x xs)
    | cons y ys =>
      have hmarked := congrArg (· ++ ['&']) hlist
      rw [intercalate_append_mark, intercalate_append_mark] at hmarked
      exact hfields _ _ hmarked

end Percent

namespace Solution

/-- Two solutions have the same key only if they bind the same variables to the same terms. -/
theorem key_injective (a b : Solution) (h : a.key = b.key) : a = b := by
  have hentries := Percent.encodeForm_injective h
  have hpair : Function.Injective fun e : Variable × Term => (e.1.name, e.2.toText) := by
    rintro ⟨⟨n⟩, t⟩ ⟨⟨m⟩, u⟩ he
    obtain ⟨hname, htext⟩ := Prod.mk.inj he
    rw [Term.toText_injective t u htext]
    cases hname
    rfl
  cases a
  cases b
  rw [Solution.mk.injEq]
  exact Function.Injective.list_map hpair hentries

end Solution

end SparqlAlgebra

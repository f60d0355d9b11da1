import SparqlAlgebra.Regex.Flags

/-!
# Escapes

What a backslash and the characters after it stand for: a character, a set, or a condition on a position.
-/

namespace SparqlAlgebra

namespace Regex

/-- What an escape stands for. -/
inductive Escape where
  | char (c : Char)
  | set (s : CharSet)
  | assertion (a : Assertion)

namespace Escape

/-- A single escape as a set. An assertion is none, and a set of bytes has one-byte characters only. -/
def toSet? (fl : Flags) : Escape → Option CharSet
  | .char c => if fl.unicode || c.toNat < 0x80 then some (.singleton c.toNat) else none
  | .set s => some s
  | .assertion _ => none

/-- Whether a character is a hexadecimal digit. -/
def isHex (c : Char) : Bool :=
  c.isDigit || ('a' ≤ c && c ≤ 'f') || ('A' ≤ c && c ≤ 'F')

/-- Whether a number is the code point of a character. -/
def isScalar (n : Nat) : Bool := n < 0xD800 || (0xDFFF < n && n ≤ CharSet.maxCodePoint)

/-- Reads some hexadecimal digits. Blanks may follow each of them where they do not count. -/
def readDigits (fl : Flags) : Nat → List Char → Option (List Char × List Char)
  | 0, r => some ([], r)
  | _ + 1, [] => none
  | n + 1, c :: r =>
    if isHex c then (readDigits fl n (fl.skipBlank r)).map fun (ds, r) => (c :: ds, r) else none

/-- Reads up to the closing brace what an opening one has begun. Blanks are left out where they do not
count. -/
def readBraced (fl : Flags) (cs : List Char) : Option (List Char × List Char) :=
  match cs with
  | [] => none
  | '}' :: r => some ([], r)
  | c :: r => (readBraced fl (fl.skipBlank r)).map fun (body, r) => (c :: body, r)
termination_by cs.length
decreasing_by
  have := fl.length_skipBlank_le r
  simp only [List.length_cons]
  omega

/-- Reads what follows `\x`, `\u` or `\U`: a fixed number of digits, or any number in braces. Two digits stand
for a byte, which a pattern of bytes must not have if it is a part of a character. -/
def readCodePoint (fl : Flags) (digits : Nat) (cs : List Char) : Option (Char × List Char) :=
  let finish (greatest : Nat) (ds r : List Char) : Option (Char × List Char) :=
    let n := Property.readHex ds
    if ds.isEmpty || !ds.all isHex || !isScalar n || greatest < n then none else some (Char.ofNat n, r)
  match fl.skipBlank cs with
  | '{' :: r =>
    (readBraced fl (fl.skipBlank r)).bind fun (ds, r) =>
      finish CharSet.maxCodePoint ds (fl.skipBlank r)
  | r =>
    (readDigits fl digits r).bind fun (ds, r) =>
      finish (if digits = 2 ∧ !fl.unicode then 0x7F else CharSet.maxCodePoint) ds r

/-- Reads what follows `\p` or `\P`: one letter, or a name in braces. -/
def readProperty (fl : Flags) (negated : Bool) (cs : List Char) : Option (CharSet × List Char) :=
  if !fl.unicode then none
  else
    match fl.skipBlank cs with
    | [] => none
    | '\\' :: _ => none
    | '{' :: r =>
      (readBraced fl (fl.skipBlank r)).bind fun (name, r) =>
        (Property.ofText? name).bind fun (s, unlike) =>
          (fl.finish (negated != unlike) s).map (·, r)
    | c :: r => (Property.named? (Property.normalName [c])).bind fun s => (fl.finish negated s).map (·, r)

/-- Whether a character may be escaped to stand for itself. -/
def isEscapable (c : Char) : Bool :=
  c.toNat < 0x80 && !c.isAlphanum && c != '<' && c != '>'

/-- The character of a one-letter escape. -/
def control? : Char → Option Char
  | 'a' => some '\x07'
  | 'f' => some '\x0c'
  | 't' => some '\t'
  | 'n' => some '\n'
  | 'r' => some '\r'
  | 'v' => some '\x0b'
  | _ => none

/-- The kinds of word boundaries by their names. -/
def boundary? (fl : Flags) (name : List Char) : Option Assertion :=
  match String.ofList name with
  | "start" => some (.wordStart fl.unicode)
  | "end" => some (.wordEnd fl.unicode)
  | "start-half" => some (.wordStartHalf fl.unicode)
  | "end-half" => some (.wordEndHalf fl.unicode)
  | _ => none

/-- Reads what follows `\b`. Braces that begin with a letter or a hyphen name a kind of boundary; others are a
repetition, which is left. -/
def readBoundary (fl : Flags) (r : List Char) : Option (Assertion × List Char) :=
  match r with
  | '{' :: body =>
    match fl.skipBlank body with
    | [] => none
    | c :: body =>
      if c.isAlpha || c == '-' then
        (readBraced fl (c :: body)).bind fun (name, r) => (boundary? fl name).map (·, r)
      else some (.wordBoundary fl.unicode, r)
  | _ => some (.wordBoundary fl.unicode, r)

/-- Reads what follows a backslash. -/
def read? (fl : Flags) : List Char → Option (Escape × List Char)
  | [] => none
  | c :: r =>
    if c = 'x' then (readCodePoint fl 2 r).map fun (c, r) => (.char c, r)
    else if c = 'u' then (readCodePoint fl 4 r).map fun (c, r) => (.char c, r)
    else if c = 'U' then (readCodePoint fl 8 r).map fun (c, r) => (.char c, r)
    else if c = 'p' ∨ c = 'P' then (readProperty fl (c == 'P') r).map fun (s, r) => (.set s, r)
    else if "dswDSW".toList.contains c then (fl.perl? c).map fun s => (.set s, r)
    else if isEscapable c then some (.char c, r)
    else
      match c with
      | 'A' => some (.assertion .textStart, r)
      | 'z' => some (.assertion .textEnd, r)
      | 'b' => (readBoundary fl r).map fun (a, r) => (.assertion a, r)
      | 'B' => some (.assertion (.notWordBoundary fl.unicode), r)
      | '<' => some (.assertion (.wordStart fl.unicode), r)
      | '>' => some (.assertion (.wordEnd fl.unicode), r)
      | c => (control? c).map fun d => (.char d, r)

end Escape

end Regex

end SparqlAlgebra

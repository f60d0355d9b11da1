/-!
# Percent encoding

A byte that is not allowed to stand for itself is written as a percent sign and two upper-case
hexadecimal digits.
-/

namespace SparqlAlgebra

namespace Percent

/-- The upper-case hexadecimal digit of a number below sixteen. -/
def hexDigit (n : Nat) : Char :=
  if n < 10 then Char.ofNat ('0'.toNat + n) else Char.ofNat ('A'.toNat + (n - 10))

/-- Whether a byte is an unreserved character of URIs: a letter, a digit or one of four marks. -/
def isUnreserved (b : UInt8) : Bool :=
  let c := Char.ofNat b.toNat
  c.isAlphanum || c == '-' || c == '_' || c == '.' || c == '~'

/-- Whether a byte stands for itself in a form field. -/
def isFormSafe (b : UInt8) : Bool :=
  let c := Char.ofNat b.toNat
  c.isAlphanum || c == '-' || c == '_' || c == '.' || c == '*'

/-- One byte, kept if it is safe. -/
def encodeByte (safe : UInt8 → Bool) (b : UInt8) : List Char :=
  if safe b then [Char.ofNat b.toNat]
  else ['%', hexDigit (b.toNat / 16), hexDigit (b.toNat % 16)]

/-- All bytes of a text, the unreserved characters kept. -/
def encode (s : String) : String :=
  String.ofList (s.toUTF8.toList.flatMap (encodeByte isUnreserved))

/-- A form field, where a space is written as a plus sign. -/
def encodeField (s : String) : String :=
  String.ofList (s.toUTF8.toList.flatMap fun b => if b = 32 then ['+'] else encodeByte isFormSafe b)

/-- Names and values joined as a form, in the given order. -/
def encodeForm (fields : List (String × String)) : String :=
  String.intercalate "&" (fields.map fun (k, v) => encodeField k ++ "=" ++ encodeField v)

end Percent

end SparqlAlgebra

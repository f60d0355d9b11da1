/-!
# Ranges of characters as ranges of bytes

A range of code points is cut into ranges whose UTF-8 forms are all combinations of bytes from one range for
each position. The surrogates have no form and are left out.
-/

namespace SparqlAlgebra

namespace Utf8

/-- The bytes of a code point. -/
def encode (n : Nat) : List Nat :=
  if n < 0x80 then [n]
  else if n < 0x800 then [0xC0 + n / 64, 0x80 + n % 64]
  else if n < 0x10000 then [0xE0 + n / 4096, 0x80 + n / 64 % 64, 0x80 + n % 64]
  else [0xF0 + n / 262144, 0x80 + n / 4096 % 64, 0x80 + n / 64 % 64, 0x80 + n % 64]

/-- Where a range is cut so that its code points have forms of one length, and so that below a byte that
varies all combinations occur. The range goes on at the place of the cut. -/
def cut? (first last : Nat) : Option Nat :=
  ([0xD800, 0xE000, 0x80, 0x800, 0x10000].find? fun p => first < p && p ≤ last).or <|
    if last < 0x80 then none
    else
      [64, 4096, 262144].findSome? fun block =>
        if first / block = last / block then none
        else if first % block ≠ 0 then some ((first / block + 1) * block)
        else if last % block ≠ block - 1 then some (last / block * block)
        else none

/-- The forms of a range of code points, in ascending order. Each form has a range of bytes for each
position. -/
def forms (first last : Nat) : List (List (Nat × Nat)) :=
  if last < first ∨ (0xD800 ≤ first ∧ last ≤ 0xDFFF) then []
  else
    match cut? first last with
    | some p =>
      if first < p ∧ p ≤ last then forms first (p - 1) ++ forms p last else []
    | none => [(encode first).zip (encode last)]
termination_by last + 1 - first

end Utf8

end SparqlAlgebra

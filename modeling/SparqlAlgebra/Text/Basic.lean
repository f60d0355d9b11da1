/-!
# Characters of a text

White space, and the place where one text occurs in another.
-/

namespace SparqlAlgebra

/-!
## White space

The characters that Unicode counts as white space, and what is done with them at the ends of a text and
between its words.
-/

namespace Text

/-- The property `White_Space`. -/
def isBlank (c : Char) : Bool :=
  let n := c.toNat
  (9 ≤ n && n ≤ 13) || n == 0x20 || n == 0x85 || n == 0xA0 || n == 0x1680 ||
    (0x2000 ≤ n && n ≤ 0x200A) || n == 0x2028 || n == 0x2029 || n == 0x202F || n == 0x205F ||
    n == 0x3000

/-- Drops white space at both ends. -/
def trim (cs : List Char) : List Char :=
  ((cs.dropWhile isBlank).reverse.dropWhile isBlank).reverse

/-- Adds a character in front of the words that follow; white space ends a word. -/
def addToWords (c : Char) (ws : List (List Char)) : List (List Char) :=
  if isBlank c then [] :: ws
  else
    match ws with
    | [] => [[c]]
    | w :: ws => (c :: w) :: ws

/-- The words between white space. -/
def words (cs : List Char) : List (List Char) :=
  (cs.foldr addToWords []).filter (!·.isEmpty)

end Text

/-!
## Finding a text in another

A needle occurs in a text at the first position where it is a beginning of the rest.
-/

namespace Text

/-- The characters before the first occurrence of the needle and those after it. -/
def splitAtFirst (needle : List Char) : List Char → Option (List Char × List Char)
  | [] => if needle.isEmpty then some ([], []) else none
  | c :: cs =>
    if needle.isPrefixOf (c :: cs) then some ([], (c :: cs).drop needle.length)
    else (splitAtFirst needle cs).map fun (b, a) => (c :: b, a)

/-- Whether the needle occurs in the text. -/
def occursIn (needle text : List Char) : Bool := (splitAtFirst needle text).isSome

end Text

end SparqlAlgebra

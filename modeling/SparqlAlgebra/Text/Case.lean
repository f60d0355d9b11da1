import SparqlAlgebra.Text.CaseTable

/-!
# Upper and lower case

Full case mappings of texts. One character may become several, and a capital sigma becomes a final one
where it ends a word.
-/

namespace SparqlAlgebra

namespace Text

open CaseTable

/-- Whether a code point lies in one of the ranges. -/
def inRanges (ranges : List (Nat × Nat)) (n : Nat) : Bool :=
  ranges.any fun r => r.1 ≤ n && n ≤ r.2

/-- The code point that the runs map a code point to. -/
def mapByRuns (runs : List Run) (n : Nat) : Nat :=
  match runs.find? fun r => r.first ≤ n && n ≤ r.last && (n - r.first) % r.step == 0 with
  | some r => (n + r.distance).toNat
  | none => n

/-- The mapping of one character by a table of expansions and one of runs. -/
def mapChar (expansions : List (Nat × List Nat)) (runs : List Run) (c : Char) : List Char :=
  match expansions.lookup c.toNat with
  | some ns => ns.map Char.ofNat
  | none => [Char.ofNat (mapByRuns runs c.toNat)]

/-- The upper case of a character, which may be several. -/
def upperChar (c : Char) : List Char :=
  if c.toNat < 0x80 then [c.toUpper] else mapChar upperExpansions upperRuns c

/-- The lower case of a character by itself. -/
def lowerChar (c : Char) : List Char :=
  if c.toNat < 0x80 then [c.toLower] else mapChar lowerExpansions lowerRuns c

/-- Whether a character is upper-case, lower-case or title-case. -/
def isCased (c : Char) : Bool := inRanges cased c.toNat

/-- Whether a character is passed over in the search for a cased one. -/
def isCaseIgnorable (c : Char) : Bool := inRanges caseIgnorable c.toNat

/-- Whether the first character that is not ignorable for case is cased. -/
def startsCased (cs : List Char) : Bool :=
  ((cs.dropWhile isCaseIgnorable).head?.map isCased).getD false

/-- Lower case of what follows the reversed text `before`. A capital sigma is final if a cased character
comes before it and none after it. -/
def lowerFrom (before : List Char) : List Char → List Char
  | [] => []
  | c :: rest =>
    let mapped :=
      if c = 'Σ' then
        [if startsCased before && !startsCased rest then 'ς' else 'σ']
      else lowerChar c
    mapped ++ lowerFrom (c :: before) rest

/-- A text in upper case. -/
def toUpper (s : String) : String := String.ofList (s.toList.flatMap upperChar)

/-- A text in lower case. -/
def toLower (s : String) : String := String.ofList (lowerFrom [] s.toList)

end Text

end SparqlAlgebra

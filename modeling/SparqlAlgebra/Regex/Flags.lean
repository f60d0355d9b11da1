import SparqlAlgebra.Regex.Node
import SparqlAlgebra.Regex.Property

/-!
# Flags of patterns

Flags hold from where they are set to the end of their group. They say how sets are closed under case and
complemented, and whether blanks count.
-/

namespace SparqlAlgebra

namespace Regex

/-- What the flags of a pattern say. -/
structure Flags where
  /-- `i`: letters match in either case. -/
  ignoreCase : Bool := false
  /-- `m`: the anchors also match at lines. -/
  multiLine : Bool := false
  /-- `s`: the dot also matches a line feed. -/
  dotAll : Bool := false
  /-- `U`: repetitions are lazy unless marked. -/
  swapGreed : Bool := false
  /-- `u`: classes are those of Unicode. -/
  unicode : Bool := true
  /-- `x`: white space and comments are skipped. -/
  extended : Bool := false
  /-- `R`: lines may also end with a carriage return. -/
  carriageReturn : Bool := false
  deriving DecidableEq, Inhabited

namespace Flags

/-- Skips white space and comments, which go from a number sign to the end of the line. -/
def skipFrom (comment : Bool) : List Char → List Char
  | [] => []
  | c :: r =>
    if comment then skipFrom (c != '\n') r
    else if Text.isBlank c then skipFrom false r
    else if c = '#' then skipFrom true r
    else c :: r

/-- Skips white space and comments where they do not count. -/
def skipBlank (fl : Flags) (cs : List Char) : List Char := if fl.extended then skipFrom false cs else cs

/-- Skipping makes no text longer. -/
theorem length_skipFrom_le (comment : Bool) (cs : List Char) :
    (skipFrom comment cs).length ≤ cs.length := by
  induction cs generalizing comment with
  | nil => simp [skipFrom]
  | cons c r ih =>
    have h₁ := ih true
    have h₂ := ih false
    have h₃ := ih (c != '\n')
    unfold skipFrom
    split
    · simp only [List.length_cons]; omega
    · split
      · simp only [List.length_cons]; omega
      · split
        · simp only [List.length_cons]; omega
        · simp

/-- Skipping where blanks may count makes no text longer. -/
theorem length_skipBlank_le (fl : Flags) (cs : List Char) : (fl.skipBlank cs).length ≤ cs.length := by
  unfold skipBlank
  split
  · exact length_skipFrom_le false cs
  · exact Nat.le_refl _

/-- Changes one flag. -/
def set? (fl : Flags) (c : Char) (on : Bool) : Option Flags :=
  match c with
  | 'i' => some { fl with ignoreCase := on }
  | 'm' => some { fl with multiLine := on }
  | 's' => some { fl with dotAll := on }
  | 'U' => some { fl with swapGreed := on }
  | 'u' => some { fl with unicode := on }
  | 'x' => some { fl with extended := on }
  | 'R' => some { fl with carriageReturn := on }
  | _ => none

/-- Reads flags up to the character that ends them, which is given back. No flag may be named twice, and
after the minus sign one must follow. -/
def read? (fl : Flags) (on : Bool) (seen : List Char) : List Char → Option (Flags × Char × List Char)
  | [] => none
  | c :: r =>
    if c = ':' ∨ c = ')' then
      if seen.head? = some '-' then none else some (fl, c, r)
    else if seen.contains c then none
    else if c = '-' then read? fl false ('-' :: seen) r
    else (fl.set? c on).bind fun fl => read? fl on (c :: seen) r

/-- Closes a set under case if case is ignored. -/
def close (fl : Flags) (s : CharSet) : CharSet :=
  if !fl.ignoreCase then s else if fl.unicode then s.closeUnderCase else s.closeUnderAsciiCase

/-- Complements a set if asked. In a pattern of bytes the complement would match a part of a character. -/
def negateIf (fl : Flags) (negated : Bool) (s : CharSet) : Option CharSet :=
  if !negated then some s else if fl.unicode then some s.complement else none

/-- A set as it is written: closed under case, then complemented if asked. -/
def finish (fl : Flags) (negated : Bool) (s : CharSet) : Option CharSet := fl.negateIf negated (fl.close s)

/-- The pattern of one character. -/
def char (fl : Flags) (c : Char) : Node :=
  if !fl.ignoreCase then .text [c]
  else if fl.unicode then .ofSet (.ofCodePoints (CharSet.orbit c.toNat))
  else .ofSet (CharSet.singleton c.toNat).closeUnderAsciiCase

/-- The set that the dot stands for. -/
def dot? (fl : Flags) : Option CharSet :=
  if !fl.unicode then none
  else if fl.dotAll then some .all
  else if fl.carriageReturn then some (CharSet.complement ⟨#[(10, 10), (13, 13)]⟩)
  else some (CharSet.complement ⟨#[(10, 10)]⟩)

/-- The set of a one-letter class such as `\d`; capitals stand for the complement. -/
def perl? (fl : Flags) (c : Char) : Option CharSet :=
  fl.negateIf c.isUpper <|
    match c.toLower with
    | 'd' => if fl.unicode then .digit else .asciiDigit
    | 's' => if fl.unicode then .space else .asciiSpace
    | _ => if fl.unicode then .word else .asciiWord

/-- The anchor at the start or at the end. -/
def anchor (fl : Flags) (atStart : Bool) : Assertion :=
  if !fl.multiLine then (if atStart then .textStart else .textEnd)
  else if fl.carriageReturn then (if atStart then .crLineStart else .crLineEnd)
  else if atStart then .lineStart else .lineEnd

end Flags

end Regex

end SparqlAlgebra

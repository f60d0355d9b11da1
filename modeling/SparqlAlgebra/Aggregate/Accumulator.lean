import SparqlAlgebra.Algebra.Pattern
import SparqlAlgebra.KeySet
import SparqlAlgebra.Value.Order

/-!
# Accumulators

A set function takes the values of a group one by one. A value may be absent, which spoils a sum, an average
and a concatenation and is passed over by the others.
-/

namespace SparqlAlgebra

/-- Texts joined so far. -/
structure Joined where
  /-- The texts so far, with the separators between them. -/
  text : String
  /-- The language of all texts, if they share one. -/
  language : Option String
  /-- Number of texts. -/
  count : Nat
  deriving DecidableEq, Inhabited

/-- The state of a set function. A sum or text that is absent has been spoiled. -/
inductive Accumulator where
  | count (n : Nat)
  | sum (total : Option Numeric)
  | average (total : Option Numeric) (n : Nat)
  | least (t : Option Term)
  | greatest (t : Option Term)
  | sample (t : Option Term)
  | concat (separator : String) (joined : Option Joined)
  deriving DecidableEq, Inhabited

namespace Joined

/-- Nothing has been joined yet. -/
def empty : Joined := ⟨"", none, 0⟩

/-- Joins a further text. -/
def push (separator : String) (j : Joined) (text : String) (language : Option String) : Joined :=
  if j.count = 0 then ⟨j.text ++ text, language, 1⟩
  else ⟨j.text ++ separator ++ text, if j.language = language then j.language else none, j.count + 1⟩

/-- Joins the text of a literal that is a plain string or in a language. -/
def pushTerm? (separator : String) (j : Joined) : Option Term → Option Joined
  | some (.literal (.tagged s l)) => some (j.push separator s (some l))
  | some (.literal (.typed s d)) => if d = Xsd.string then some (j.push separator s none) else none
  | _ => none

/-- The joined text, with the language that all texts share if there is one. -/
def toTerm (j : Joined) : Term :=
  match j.language with
  | some l => .literal (.tagged j.text l)
  | none => .literal (.string j.text)

end Joined

namespace Accumulator

/-- Adds the number that a term stands for. -/
def addTo (total : Numeric) : Option Term → Option Numeric
  | some (.literal l) => (Numeric.ofLiteral? l).bind total.add?
  | _ => none

/-- Whether a term takes the place of the present one. -/
def replaces (wanted : Ordering) (t : Term) : Option Term → Bool
  | none => true
  | some u => t.order u == wanted

/-- Takes the next value. -/
def push : Accumulator → Option Term → Accumulator
  | .count n, t => .count (if t.isSome then n + 1 else n)
  | .sum total, t => .sum (total.bind fun x => addTo x t)
  | .average total n, t => .average (total.bind fun x => addTo x t) (n + 1)
  | .least u, some t => .least (if replaces .lt t u then some t else u)
  | .least u, none => .least u
  | .greatest u, some t => .greatest (if replaces .gt t u then some t else u)
  | .greatest u, none => .greatest u
  | .sample u, t => .sample (u.or t)
  | .concat sep j, t => .concat sep (j.bind fun j => j.pushTerm? sep t)

/-- The count as a literal, if it fits in 64 bits. -/
def countTerm? (n : Nat) : Option Term :=
  if fitsInt64 n then some (.literal (.ofInt n)) else none

/-- The aggregate. It may fail, and it may be absent. -/
def finish : Accumulator → Option (Option Term)
  | .count n => (countTerm? n).map some
  | .sum total => total.map fun x => some (.literal x.toLiteral)
  | .average total n =>
    total.bind fun x =>
      if n = 0 then some (some (.literal (.ofInt 0)))
      else (x.div? (.integer n)).map fun y => some (.literal y.toLiteral)
  | .least t => some t
  | .greatest t => some t
  | .sample t => some t
  | .concat _ j => j.map fun j => some j.toTerm

/-- The aggregate of a list of values. -/
def ofList (start : Accumulator) (ts : List (Option Term)) : Option (Option Term) :=
  (ts.foldl push start).finish

/-- Keeps each term at its first occurrence unless it is in the set, and every absent value. `found` are the
values kept so far, the last one first. -/
def keepDistinctFrom (seen : KeySet Term) (found : List (Option Term)) :
    List (Option Term) → List (Option Term)
  | [] => found.reverse
  | none :: ts => keepDistinctFrom seen (none :: found) ts
  | some t :: ts =>
    if seen.contains t then keepDistinctFrom seen found ts
    else keepDistinctFrom (seen.insert t) (some t :: found) ts

/-- What has been found before stays in front of what is found later. -/
theorem keepDistinctFrom_eq (seen : KeySet Term) (found ts : List (Option Term)) :
    keepDistinctFrom seen found ts = found.reverse ++ keepDistinctFrom seen [] ts := by
  induction ts generalizing seen found with
  | nil => simp [keepDistinctFrom]
  | cons t ts ih =>
    cases t with
    | none => simp [keepDistinctFrom, ih _ (none :: found), ih _ [none]]
    | some t =>
      simp only [keepDistinctFrom]
      split
      · exact ih seen found
      · simp [ih _ (some t :: found), ih _ [some t]]

/-- Keeps each term at its first occurrence, and every absent value. -/
def keepDistinct (ts : List (Option Term)) : List (Option Term) := keepDistinctFrom .empty [] ts

end Accumulator

namespace SetFunction

/-- What is written between texts unless a separator is given. -/
def defaultSeparator : String := " "

/-- The state before the first value. Custom set functions have none. -/
def start? : SetFunction → Option Accumulator
  | .count => some (.count 0)
  | .sum => some (.sum (some (.integer 0)))
  | .avg => some (.average (some (.integer 0)) 0)
  | .min => some (.least none)
  | .max => some (.greatest none)
  | .sample => some (.sample none)
  | .groupConcat sep => some (.concat (sep.getD defaultSeparator) (some .empty))
  | .custom _ => none

end SetFunction

end SparqlAlgebra

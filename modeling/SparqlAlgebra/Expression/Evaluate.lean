import SparqlAlgebra.Expression.Compiled
import SparqlAlgebra.Solution

/-!
# Evaluating expressions

The value of a compiled expression for a row. An expression may have no value; the connectives and the test
for membership still have one if the other operands decide.
-/

namespace SparqlAlgebra

/-- What an expression is evaluated against. -/
structure Row where
  /-- The row that variables are looked up in. -/
  solution : Solution
  /-- The answers to the tests for solutions. -/
  answers : List Bool
  /-- Tells the values drawn for this row from those drawn for others. -/
  seed : Nat
  deriving Inhabited

/-! Truth values that may be missing. -/
namespace Truth

/-- True if one of the operands is, false if both are. -/
def or (a b : Option Bool) : Option Bool :=
  match a, b with
  | some true, _ => some true
  | _, some true => some true
  | some false, some false => some false
  | _, _ => none

/-- False if one of the operands is, true if both are. -/
def and (a b : Option Bool) : Option Bool :=
  match a, b with
  | some false, _ => some false
  | _, some false => some false
  | some true, some true => some true
  | _, _ => none

/-- Whether one of several equalities holds. One that is undecided counts only if none holds. -/
def any : List (Option Bool) → Option Bool
  | [] => some false
  | some true :: _ => some true
  | some false :: rest => any rest
  | none :: rest => if any rest = some true then some true else none

end Truth

namespace Comparison

/-- Whether the operator accepts an order. -/
def accepts : Comparison → Ordering → Bool
  | .greater, o => o == .gt
  | .greaterOrEqual, o => o != .lt
  | .less, o => o == .lt
  | .lessOrEqual, o => o != .gt

end Comparison

namespace Arithmetic

/-- Calculates with the numbers that two terms stand for, promoted to a common type. -/
def apply : Arithmetic → Term → Term → Option Term
  | .add => Builtin.onNumerics Numeric.add?
  | .subtract => Builtin.onNumerics Numeric.sub?
  | .multiply => Builtin.onNumerics Numeric.mul?
  | .divide => Builtin.onNumerics Numeric.div?

end Arithmetic

namespace Sign

/-- A sign before the number that a term stands for. -/
def apply : Sign → Term → Option Term
  | .plus => Builtin.onNumeric some
  | .minus => Builtin.onNumeric Numeric.neg?

end Sign

/-! Labels and numbers that are drawn. They are made of a seed and a site, so that all are different. -/
namespace Drawn

/-- A number that stands for two numbers. No other two give the same one. -/
def pair (a b : Nat) : Nat := (a + b) * (a + b + 1) / 2 + b

/-- A label of at least thirty-two digits. -/
def label (seed site : Nat) : String := String.ofList (lowerHex 32 (pair seed site))

/-- The text of a universally unique identifier of the random kind. -/
def uuid (seed site : Nat) : String :=
  let ds := lowerHex 30 (pair seed site)
  String.ofList <|
    ds.take 8 ++ '-' :: (ds.drop 8).take 4 ++ '-' :: '4' :: (ds.drop 12).take 3 ++
      '-' :: '8' :: (ds.drop 15).take 3 ++ '-' :: ds.drop 18

/-- A number from zero to one. -/
def fraction (seed site : Nat) : Double :=
  Binary.round false ((seed * 2654435761 + site * 40503 + 12345) % Nat.pow 2 32) (Nat.pow 2 32)

end Drawn

namespace Draw

/-- The term that is drawn at a site for a seed. -/
def term (seed site : Nat) : Draw → Term
  | .blankNode => .blank ⟨Drawn.label seed site⟩
  | .uuidIri => .iri ⟨"urn:uuid:" ++ Drawn.uuid seed site⟩
  | .uuidText => .string (Drawn.uuid seed site)
  | .fraction => .ofNumeric (.double (Drawn.fraction seed site))

end Draw

namespace Compiled

mutual

/-- The value of an expression as one term. -/
def term? (r : Row) : Compiled → Option Term
  | .constant t => some t
  | .var v => r.solution.get? v
  | .or a b => (Truth.or ((a.term? r).bind Term.truth?) ((b.term? r).bind Term.truth?)).map .ofBool
  | .and a b => (Truth.and ((a.term? r).bind Term.truth?) ((b.term? r).bind Term.truth?)).map .ofBool
  | .not a => ((a.term? r).bind Term.truth?).map fun b => .ofBool (!b)
  | .equal a b =>
    (a.term? r).bind fun x => (b.term? r).bind fun y => (x.equal? y).map .ofBool
  | .sameTerm a b => (a.term? r).bind fun x => (b.term? r).map fun y => .ofBool (x == y)
  | .compare op a b =>
    (a.term? r).bind fun x => (b.term? r).bind fun y =>
      (x.compare? y).map fun o => .ofBool (op.accepts o)
  | .member a es =>
    (a.term? r).bind fun x =>
      (Truth.any ((terms? r es).map fun y => y.bind x.equal?)).map .ofBool
  | .arithmetic op a b => (a.term? r).bind fun x => (b.term? r).bind fun y => op.apply x y
  | .sign op a => (a.term? r).bind op.apply
  | .answer i => r.answers[i]?.map .ofBool
  | .isBound v => some (.ofBool (r.solution.binds v))
  | .choose c a b =>
    ((c.term? r).bind Term.truth?).bind fun t => if t then a.term? r else b.term? r
  | .coalesce es => (terms? r es).findSome? id
  | .call f es => ((terms? r es).mapM id).bind f.call
  | .draw d site => some (d.term r.seed site)
  | .custom f es => (((terms? r es).mapM id).bind f.call).bind Value.first?

/-- The values of several expressions. -/
def terms? (r : Row) : List Compiled → List (Option Term)
  | [] => []
  | e :: es => e.term? r :: terms? r es

end

/-- The value of an expression. Only a custom function that is called last may give several terms. -/
def value? (r : Row) : Compiled → Option Value
  | .custom f es => ((terms? r es).mapM id).bind f.call
  | e => (e.term? r).map .term

/-- The effective boolean value of an expression. -/
def truth? (r : Row) (e : Compiled) : Option Bool := (e.term? r).bind Term.truth?

/-- The variable that the expression is, if it is one. -/
def asVariable? : Compiled → Option Variable
  | .var v => some v
  | _ => none

end Compiled

end SparqlAlgebra

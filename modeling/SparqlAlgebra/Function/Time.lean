import SparqlAlgebra.Value.Literal

/-!
# Functions on dates and times

The fields of a date or of a date with a time of day, and its offset from UTC in two spellings.
-/

namespace SparqlAlgebra

/-- A date, with or without a time of day. -/
inductive Temporal where
  | dateTime (value : Moment)
  | date (value : Moment)

namespace Temporal

/-- The moment or time that a literal stands for by its type. -/
def ofLiteral? (l : Literal) : Option Temporal :=
  if l.datatype = Xsd.dateTime then (Moment.ofText? l.text).map .dateTime
  else if l.datatype = Xsd.date then (Moment.ofDateText? l.text).map .date
  else none

/-- The moment or time of a term, if it is such a literal. -/
def ofTerm? : Term → Option Temporal
  | .literal l => ofLiteral? l
  | _ => none

/-- The moment at which it begins. -/
def moment : Temporal → Moment
  | .dateTime t => t
  | .date t => t

/-- The moment, if there is a time of day. -/
def timed? : Temporal → Option Moment
  | .dateTime t => some t
  | .date _ => none

end Temporal

namespace Moment

/-- An offset in minutes as a duration. -/
def durationText (minutes : Int) : String :=
  if minutes = 0 then "PT0S"
  else
    let h := minutes.natAbs / 60
    let m := minutes.natAbs % 60
    (if minutes < 0 then "-" else "") ++ "PT" ++ (if h = 0 then "" else toString h ++ "H") ++
      (if m = 0 then "" else toString m ++ "M")

/-- The offset as it is spelled at the end of a lexical form, or nothing. -/
def offsetSuffix (s : String) : String :=
  let cs := s.toList
  if cs.getLast? = some 'Z' then "Z"
  else
    match cs.drop (cs.length - 6) with
    | [sign, h, h', colon, m, m'] =>
      if (sign = '+' ∨ sign = '-') ∧ colon = ':' then String.ofList [sign, h, h', colon, m, m'] else ""
    | _ => ""

end Moment

end SparqlAlgebra

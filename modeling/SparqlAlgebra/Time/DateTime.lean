import SparqlAlgebra.Number.Decimal

/-!
# Dates and times

A moment is a decimal count of seconds since the first day of year one, together with an optional offset
from UTC. Two moments of which only one has an offset are ordered if the order is the same for every
offset that the other could have.
-/

namespace SparqlAlgebra

/-!
## The proleptic Gregorian calendar

Days and months of years of any sign, the day count from the first day of year one, and its inverse.
-/

namespace Calendar

/-- Whether a year has a leap day. -/
def isLeapYear (year : Int) : Bool :=
  year % 400 == 0 || (year % 100 != 0 && year % 4 == 0)

/-- The number of days of a month. -/
def daysInMonth (year : Int) (month : Nat) : Nat :=
  if month = 2 then (if isLeapYear year then 29 else 28)
  else if month = 4 ∨ month = 6 ∨ month = 9 ∨ month = 11 then 30
  else 31

/-- Days from the first of January of the year to the first of the month. -/
def daysBeforeMonth (year : Int) (month : Nat) : Nat :=
  (List.range (month - 1)).foldl (fun days i => days + daysInMonth year (i + 1)) 0

/-- Days from the first day of year one to the first day of the year. -/
def daysBeforeYear (year : Int) : Int :=
  let y := year - 1
  365 * y + y / 4 - y / 100 + y / 400

/-- Days from the first day of year one to the given day. -/
def dayNumber (year : Int) (month day : Nat) : Int :=
  daysBeforeYear year + daysBeforeMonth year month + (day - 1)

/-- The month and day of the month that lie `days` after the first of January; the fuel bounds the
months left. -/
def monthDay (year : Int) : Nat → Nat → Nat → Nat × Nat
  | 0, month, days => (month, days + 1)
  | fuel + 1, month, days =>
    let n := daysInMonth year month
    if days < n then (month, days + 1) else monthDay year fuel (month + 1) (days - n)

/-- The year in which the day lies. The quotient by the mean length of a year is off by at most one. -/
def yearOfDay (day : Int) : Int :=
  let guess := (day * 400) / 146097 + 1
  if day < daysBeforeYear guess then guess - 1
  else if daysBeforeYear (guess + 1) ≤ day then guess + 1
  else guess

/-- The date of a day number. -/
def dateOfDay (day : Int) : Int × Nat × Nat :=
  let year := yearOfDay day
  let (month, d) := monthDay year 11 1 (day - daysBeforeYear year).toNat
  (year, month, d)

end Calendar

/-! ## Moments -/

/-- A point on the time line. With an offset the seconds count in UTC, without one in local time. -/
structure Moment where
  /-- The seconds since the epoch. -/
  seconds : Decimal
  /-- Minutes ahead of UTC. -/
  offset : Option Int
  deriving DecidableEq, Inhabited

namespace Moment

/-- Fourteen hours, the greatest offset. -/
def maxOffsetSeconds : Int := 14 * 3600

/-- Whole seconds of local time, without the fraction. -/
def localSeconds (t : Moment) : Int := t.seconds.units / Decimal.unit + 60 * t.offset.getD 0

/-- The year, month and day in the time zone of a moment. -/
def date (t : Moment) : Int × Nat × Nat := Calendar.dateOfDay (t.localSeconds / 86400)

/-- The year of a moment in its time zone. -/
def year (t : Moment) : Int := t.date.1

/-- The month of a moment in its time zone. -/
def month (t : Moment) : Nat := t.date.2.1

/-- The day of a moment in its time zone. -/
def day (t : Moment) : Nat := t.date.2.2

/-- The hour of a moment in its time zone. -/
def hour (t : Moment) : Int := t.localSeconds % 86400 / 3600

/-- The minute of a moment in its time zone. -/
def minute (t : Moment) : Int := t.localSeconds % 3600 / 60

/-- Seconds within the minute, with their fraction. -/
def second (t : Moment) : Decimal := ⟨t.seconds.units % (60 * Decimal.unit)⟩

/-- The order of a moment in UTC and a local time, if it holds for all offsets of the local time. -/
def compareToLocal? (utc loc : Decimal) : Option Ordering :=
  match loc.add? (.ofInt maxOffsetSeconds), loc.sub? (.ofInt maxOffsetSeconds) with
  | some late, some early =>
    let o := compare utc.units late.units
    if o = compare utc.units early.units then some o else none
  | _, _ => none

/-- Compares moments, as far as they can be without a time zone. -/
def compare? (x y : Moment) : Option Ordering :=
  match x.offset, y.offset with
  | some _, some _ => some (compare x.seconds.units y.seconds.units)
  | none, none => some (compare x.seconds.units y.seconds.units)
  | some _, none => compareToLocal? x.seconds y.seconds
  | none, some _ => (compareToLocal? y.seconds x.seconds).map Ordering.swap

/-- Reads a moment without an offset as one in UTC. -/
def toUtc (t : Moment) : Moment := { t with offset := some 0 }

/-- Two digits of a small number. -/
def twoDigits (n : Nat) : String := if n < 10 then "0" ++ toString n else toString n

/-- `Z` for UTC, else a sign, hours and minutes. -/
def offsetText (minutes : Int) : String :=
  if minutes = 0 then "Z"
  else
    (if minutes < 0 then "-" else "+") ++ twoDigits (minutes.natAbs / 60) ++ ":" ++
      twoDigits (minutes.natAbs % 60)

/-- A year of at least four digits. -/
def yearText (year : Int) : String :=
  let ds := toString year.natAbs
  (if year < 0 then "-" else "") ++ String.ofList (List.replicate (4 - ds.length) '0') ++ ds

/-- The canonical text of a date and time. -/
def toText (t : Moment) : String :=
  let s := t.second
  yearText t.year ++ "-" ++ twoDigits t.month ++ "-" ++ twoDigits t.day ++ "T" ++
    twoDigits t.hour.toNat ++ ":" ++ twoDigits t.minute.toNat ++ ":" ++
    (if s.units < 10 * Decimal.unit then "0" else "") ++ s.toText ++
    (t.offset.map offsetText).getD ""

/-- The moment of a date and a time of day. -/
def ofFields? (year : Int) (month day : Nat) (hour minute : Nat) (second : Decimal)
    (offset : Option Int) : Option Moment :=
  let whole := 86400 * Calendar.dayNumber year month day + 3600 * hour +
    60 * ((minute : Int) - offset.getD 0)
  (Decimal.ofUnits? (whole * Decimal.unit)).bind fun base =>
    (base.add? second).map fun seconds => ⟨seconds, offset⟩

end Moment

/-! Readers of the parts of a date or time. Each takes the longest run of its characters and gives the
rest of the text. -/
namespace MomentReader

/-- Takes a run of digits. -/
def digits (cs : List Char) : List Char × List Char :=
  (cs.takeWhile Char.isDigit, cs.dropWhile Char.isDigit)

/-- Takes exactly the given character. -/
def exactly (c : Char) : List Char → Option (List Char)
  | d :: r => if d = c then some r else none
  | [] => none

/-- Takes a run of two digits with a value between the bounds. -/
def twoDigitField (low high : Nat) (cs : List Char) : Option (Nat × List Char) :=
  let (ds, r) := digits cs
  let n := Binary.digitsValue ds
  if ds.length = 2 ∧ low ≤ n ∧ n ≤ high then some (n, r) else none

/-- Takes a year of four digits, or of more if it does not start with zero. -/
def yearField (cs : List Char) : Option (Int × List Char) :=
  let (neg, cs) := match cs with
    | '-' :: r => (true, r)
    | r => (false, r)
  let (ds, r) := digits cs
  let n := Binary.digitsValue ds
  if ds.length < 4 ∨ (ds.length > 4 ∧ ds.head? = some '0') ∨ n ≥ Nat.pow 2 63 then none
  else some (if neg then -(n : Int) else n, r)

/-- Takes seconds with an optional fraction, which must not be empty if its point is there. -/
def secondField (cs : List Char) : Option (Decimal × List Char) :=
  let (whole, r) := digits cs
  let (text, r) := match r with
    | '.' :: r => let (ds, r) := digits r; (whole ++ '.' :: ds, r)
    | r => (whole, r)
  if whole.length ≠ 2 ∨ text.getLast? = some '.' then none
  else
    (Decimal.ofText? (String.ofList text)).bind fun s =>
      if s.units < 60 * Decimal.unit then some (s, r) else none

/-- Reads `Z` or a signed offset of at most fourteen hours, in minutes. -/
def offsetField (cs : List Char) : Option (Int × List Char) :=
  match cs with
  | 'Z' :: r => some (0, r)
  | c :: r =>
    if c ≠ '+' ∧ c ≠ '-' then none
    else do
      let (h, r) ← twoDigitField 0 14 r
      let r ← exactly ':' r
      let (m, r) ← twoDigitField 0 59 r
      if h = 14 ∧ m ≠ 0 then none
      else
        let n : Int := h * 60 + m
        some (if c = '-' then -n else n, r)
  | [] => none

/-- Reads an offset up to the end of the text, or nothing at the end. -/
def endField (cs : List Char) : Option (Option Int) :=
  if cs.isEmpty then some none
  else
    match offsetField cs with
    | some (o, []) => some (some o)
    | _ => none

end MomentReader

namespace Moment

open MomentReader

/-- Reads a date with an optional offset. -/
def ofDateText? (s : String) : Option Moment := do
  let (year, r) ← yearField s.toList
  let r ← exactly '-' r
  let (month, r) ← twoDigitField 1 12 r
  let r ← exactly '-' r
  let (day, r) ← twoDigitField 1 31 r
  let offset ← endField r
  if day > Calendar.daysInMonth year month then none
  else ofFields? year month day 0 0 .zero offset

/-- Reads a date and a time of day with an optional offset. The end of a day may be written as hour
twenty-four. -/
def ofText? (s : String) : Option Moment := do
  let (year, r) ← yearField s.toList
  let r ← exactly '-' r
  let (month, r) ← twoDigitField 1 12 r
  let r ← exactly '-' r
  let (day, r) ← twoDigitField 1 31 r
  let r ← exactly 'T' r
  let (hour, r) ← twoDigitField 0 24 r
  let r ← exactly ':' r
  let (minute, r) ← twoDigitField 0 59 r
  let r ← exactly ':' r
  let (second, r) ← secondField r
  let offset ← endField r
  if hour = 24 ∧ (minute ≠ 0 ∨ second.units ≠ 0) then none
  else if day > Calendar.daysInMonth year month then none
  else ofFields? year month day hour minute second offset

end Moment

end SparqlAlgebra

import SparqlAlgebra.Text.Case
import SparqlAlgebra.Text.CaseTable

/-!
# Sets of characters

A set is an ascending array of ranges of code points that do not touch. Besides the set operations there is
the closure of a set under simple case folding. The surrogates are no characters: the neighbours of the gap
that they leave count as following each other, but ranges on its two sides are not joined.
-/

namespace SparqlAlgebra

namespace Regex

/-- A set of code points, as ranges. -/
structure CharSet where
  /-- The first and last code point of each range, in ascending order. -/
  ranges : Array (Nat × Nat)
  deriving DecidableEq, Inhabited

namespace CharSet

/-- The greatest code point. -/
def maxCodePoint : Nat := 0x10FFFF

/-- The set without characters. -/
def empty : CharSet := ⟨#[]⟩

/-- The set of all characters. -/
def all : CharSet := ⟨#[(0, maxCodePoint)]⟩

/-- The set of one character. -/
def singleton (n : Nat) : CharSet := ⟨#[(n, n)]⟩

/-- Joins neighbouring and overlapping ranges of a list that is sorted by first code point. -/
def joinRanges : List (Nat × Nat) → List (Nat × Nat)
  | [] => []
  | [r] => [r]
  | a :: b :: rest =>
    if b.1 ≤ a.2 + 1 then joinRanges ((a.1, max a.2 b.2) :: rest) else a :: joinRanges (b :: rest)
termination_by rs => rs.length

/-- The set of the code points in any of the ranges. -/
def ofRanges (rs : List (Nat × Nat)) : CharSet :=
  ⟨(joinRanges ((rs.filter fun r => r.1 ≤ r.2).mergeSort fun a b => a.1 ≤ b.1)).toArray⟩

/-- The set of some code points. -/
def ofCodePoints (ns : List Nat) : CharSet := ofRanges (ns.map fun n => (n, n))

/-- Whether a set has no character. -/
def isEmpty (s : CharSet) : Bool := s.ranges.isEmpty

/-- The code point of a set that has just one. -/
def only? (s : CharSet) : Option Nat :=
  match s.ranges.toList with
  | [(a, b)] => if a = b then some a else none
  | _ => none

/-- Whether all code points are below 128. -/
def isAscii (s : CharSet) : Bool := s.ranges.all fun r => r.2 < 0x80

/-- Whether one of the ranges at the places from `first` on and below `last` holds the code point. -/
def search (rs : Array (Nat × Nat)) (n first last : Nat) : Bool :=
  if first < last then
    let middle := (first + last) / 2
    match rs[middle]? with
    | some r =>
      if n < r.1 then search rs n first middle
      else if r.2 < n then search rs n (middle + 1) last
      else true
    | none => false
  else false
termination_by last - first

/-- Whether a set has the character of a code point. -/
def contains (s : CharSet) (n : Nat) : Bool := search s.ranges n 0 s.ranges.size

/-- Unites sets. -/
def unions : List CharSet → CharSet
  | [s] => s
  | ss => ofRanges (ss.flatMap fun s => s.ranges.toList)

/-- The characters of either set. -/
def union (a b : CharSet) : CharSet := unions [a, b]

/-- The code point that follows one, the surrogates passed over. -/
def after (n : Nat) : Nat := if n = 0xD7FF then 0xE000 else n + 1

/-- The code point that one follows, the surrogates passed over. -/
def before (n : Nat) : Nat := if n = 0xE000 then 0xD7FF else n - 1

/-- What lies between two ranges. If only the surrogates do, it is the two ends that face them. -/
def between (a b : Nat × Nat) : Nat × Nat :=
  (min (after a.2) (before b.1), max (after a.2) (before b.1))

/-- What lies between neighbours, and after the last range. -/
def gaps : List (Nat × Nat) → List (Nat × Nat)
  | [] => []
  | [a] => if a.2 < maxCodePoint then [(after a.2, maxCodePoint)] else []
  | a :: b :: rest => between a b :: gaps (b :: rest)

/-- The characters that are not in a set. -/
def complement (s : CharSet) : CharSet :=
  match s.ranges.toList with
  | [] => all
  | a :: rest => ⟨((if 0 < a.1 then [(0, before a.1)] else []) ++ gaps (a :: rest)).toArray⟩

/-- What two ascending lists of ranges have in common. -/
def interRanges : List (Nat × Nat) → List (Nat × Nat) → List (Nat × Nat)
  | a :: as, b :: bs =>
    let rest := if a.2 < b.2 then interRanges as (b :: bs) else interRanges (a :: as) bs
    if max a.1 b.1 ≤ min a.2 b.2 then (max a.1 b.1, min a.2 b.2) :: rest else rest
  | _, _ => []
termination_by as bs => as.length + bs.length

/-- The ranges of the first list without the code points of the second. -/
def diffRanges : List (Nat × Nat) → List (Nat × Nat) → List (Nat × Nat)
  | a :: as, b :: bs =>
    if b.2 < a.1 then diffRanges (a :: as) bs
    else if a.2 < b.1 then a :: diffRanges as (b :: bs)
    else
      let rest :=
        if b.2 < a.2 then diffRanges ((after b.2, a.2) :: as) bs else diffRanges as (b :: bs)
      if a.1 < b.1 then (a.1, before b.1) :: rest else rest
  | as, _ => as
termination_by as bs => as.length + bs.length

/-- The characters of both sets. -/
def inter (a b : CharSet) : CharSet := ⟨(interRanges a.ranges.toList b.ranges.toList).toArray⟩

/-- The characters of the first set that are not in the second. -/
def diff (a b : CharSet) : CharSet := ⟨(diffRanges a.ranges.toList b.ranges.toList).toArray⟩

/-- The characters of exactly one of the sets. -/
def symmDiff (a b : CharSet) : CharSet := union (diff a b) (diff b a)

/-! Case folding. -/

/-- The code point that a code point is folded to. -/
def fold (n : Nat) : Nat := Text.mapByRuns CaseTable.foldRuns n

/-- The code points of a run that are folded to `target`: at most one. -/
def foldSource (target : Nat) (r : CaseTable.Run) : Option Nat :=
  let n : Int := target - r.distance
  if r.first ≤ n ∧ n ≤ r.last ∧ (n - r.first) % r.step = 0 then some n.toNat else none

/-- All code points that are the same up to case. -/
def orbit (n : Nat) : List Nat :=
  let t := fold n
  t :: CaseTable.foldRuns.filterMap (foldSource t)

/-- Whether one of the ranges at the places from `first` on and below `last` meets the range from `a` to
`b`. -/
def searchRange (rs : Array (Nat × Nat)) (a b : Int) (first last : Nat) : Bool :=
  if first < last then
    let middle := (first + last) / 2
    match rs[middle]? with
    | some r =>
      if b < r.1 then searchRange rs a b first middle
      else if r.2 < a then searchRange rs a b (middle + 1) last
      else true
    | none => false
  else false
termination_by last - first

/-- Whether a set meets a range. -/
def meets (s : CharSet) (a b : Int) : Bool := searchRange s.ranges a b 0 s.ranges.size

/-- The code points of a run with those that they are folded to. -/
def foldPairs (run : CaseTable.Run) : List (Nat × Nat) :=
  (List.range ((run.last - run.first) / run.step + 1)).map fun i =>
    let n := run.first + i * run.step
    (n, (n + run.distance).toNat)

/-- The code points to which some code point of a set is folded, if another one is folded to the same. -/
def foldTargets (s : CharSet) : CharSet :=
  ofCodePoints <| CaseTable.foldRuns.flatMap fun run =>
    if s.meets run.first run.last || s.meets (run.first + run.distance) (run.last + run.distance) then
      (foldPairs run).filterMap fun (n, t) => if s.contains n || s.contains t then some t else none
    else []

/-- The code points that are folded to one of a set, other than themselves. -/
def foldSources (targets : CharSet) : CharSet :=
  ofCodePoints <| CaseTable.foldRuns.flatMap fun run =>
    if targets.meets (run.first + run.distance) (run.last + run.distance) then
      (foldPairs run).filterMap fun (n, t) => if targets.contains t then some n else none
    else []

/-- The least superset that with a code point contains all that are the same up to case. -/
def closeUnderCase (s : CharSet) : CharSet :=
  let targets := foldTargets s
  unions [s, targets, foldSources targets]

/-- A range moved by the distance between the cases of the English letters, both ways. -/
def asciiCounterparts (r : Nat × Nat) : List (Nat × Nat) :=
  [(max r.1 0x41 + 32, min r.2 0x5A + 32), (max r.1 0x61 - 32, min r.2 0x7A - 32)]

/-- The same closure where only the English letters have cases. -/
def closeUnderAsciiCase (s : CharSet) : CharSet :=
  union s (ofRanges (s.ranges.toList.flatMap asciiCounterparts))

end CharSet

end Regex

end SparqlAlgebra

import SparqlAlgebra.Regex.Program

/-!
# Matching

A text is matched by following all threads at once, in order of preference: of all matches the leftmost is
taken, and of those the one that a backtracking search would find first. At each position every instruction is
visited once.
-/

namespace SparqlAlgebra

namespace Regex

/-- The characters next to a position: the one before it and the one after it. -/
structure Surroundings where
  before : Option Char
  after : Option Char

namespace Surroundings

/-- The characters next to a position of a text. -/
def at? (text : Array Char) (index : Nat) : Surroundings :=
  ⟨if index = 0 then none else text[index - 1]?, text[index]?⟩

/-- Whether there is a character of a word, in Unicode or in ASCII. -/
def isWord (unicode : Bool) (c : Option Char) : Bool :=
  match c with
  | some c => (if unicode then CharSet.word else CharSet.asciiWord).contains c.toNat
  | none => false

/-- Whether an assertion holds between two characters. -/
def satisfies (s : Surroundings) : Assertion → Bool
  | .textStart => s.before.isNone
  | .textEnd => s.after.isNone
  | .lineStart => s.before.isNone || s.before == some '\n'
  | .lineEnd => s.after.isNone || s.after == some '\n'
  | .crLineStart =>
    s.before.isNone || s.before == some '\n' || (s.before == some '\r' && s.after != some '\n')
  | .crLineEnd =>
    s.after.isNone || s.after == some '\r' || (s.after == some '\n' && s.before != some '\r')
  | .wordBoundary u => isWord u s.before != isWord u s.after
  | .notWordBoundary u => isWord u s.before == isWord u s.after
  | .wordStart u => !isWord u s.before && isWord u s.after
  | .wordEnd u => isWord u s.before && !isWord u s.after
  | .wordStartHalf u => !isWord u s.before
  | .wordEndHalf u => !isWord u s.after

/-- Whether the character after the position is in the set. -/
def follows (s : Surroundings) (cs : CharSet) : Bool :=
  match s.after with
  | some c => cs.contains c.toNat
  | none => false

end Surroundings

/-- Positions stored in slots. -/
abbrev Slots := List (Nat × Nat)

/-- Stores a position in a slot. -/
def Slots.store (slots : Slots) (slot index : Nat) : Slots :=
  (slot, index) :: slots.filter fun s => s.1 != slot

/-- A thread: the instruction it waits at and the positions it has stored. -/
structure Thread where
  /-- The instruction. -/
  position : Nat
  /-- The stored positions. -/
  slots : Slots

/-- Which instructions have been visited: those that carry the present stamp. -/
structure Visits where
  /-- The present stamp. -/
  stamp : Nat
  /-- The stamp of the last visit of each instruction. -/
  stamps : Array Nat

namespace Visits

/-- No visits, for a program of some size. -/
def start (size : Nat) : Visits := ⟨1, Array.replicate size 0⟩

/-- Forgets all visits. -/
def next (v : Visits) : Visits := { v with stamp := v.stamp + 1 }

/-- Whether an instruction has been visited. One beyond the program counts as visited. -/
def has (v : Visits) (position : Nat) : Bool := v.stamps.getD position v.stamp == v.stamp

/-- Marks an instruction as visited. -/
def add (v : Visits) (position : Nat) : Visits :=
  { v with stamps := v.stamps.setIfInBounds position v.stamp }

end Visits

namespace Program

/-- Follows threads at one position, the most preferred first, until one accepts. Gives the threads that have
taken the next character, the least preferred first, and what the accepting one has stored. The fuel bounds
the number of threads that are followed. -/
def step (p : Program) (here : Surroundings) (index : Nat) :
    Nat → List Thread → List Thread → Visits → List Thread × Option Slots × Visits
  | 0, _, done, v => (done, none, v)
  | _ + 1, [], done, v => (done, none, v)
  | fuel + 1, t :: work, done, v =>
    if v.has t.position then step p here index fuel work done v
    else
      let v := v.add t.position
      match p.code[t.position]? with
      | some (.char c next) =>
        step p here index fuel work (if here.after == some c then { t with position := next } :: done else done) v
      | some (.set s next) =>
        step p here index fuel work (if here.follows s then { t with position := next } :: done else done) v
      | some (.split targets) =>
        step p here index fuel (targets.map ({ t with position := · }) ++ work) done v
      | some (.save slot next) =>
        step p here index fuel (⟨next, t.slots.store slot index⟩ :: work) done v
      | some (.assertion a next) =>
        step p here index fuel (if here.satisfies a then { t with position := next } :: work else work) done v
      | some .accept => (done, some t.slots, v)
      | none => step p here index fuel work done v

/-- The first position from `index` on where a match can start, as far as the next characters tell. -/
def skip (p : Program) (text : Array Char) (index : Nat) : Nat :=
  match p.first with
  | none => index
  | some s =>
    if h : index < text.size then
      if s.contains text[index].toNat then index else skip p text (index + 1)
    else index
termination_by text.size - index

/-- Skipping never goes back. -/
theorem le_skip (p : Program) (text : Array Char) (index : Nat) : index ≤ p.skip text index := by
  fun_induction skip p text index with
  | case1 => exact Nat.le_refl _
  | case2 => exact Nat.le_refl _
  | case3 _ _ _ _ _ ih => omega
  | case4 => exact Nat.le_refl _

/-- Where a run goes on: without threads it can pass over positions. -/
def resume (p : Program) (text : Array Char) (index : Nat) (idle : Bool) : Nat :=
  if idle then p.skip text index else index

/-- Going on never goes back. -/
theorem le_resume (p : Program) (text : Array Char) (index : Nat) (idle : Bool) :
    index ≤ p.resume text index idle := by
  unfold resume
  split
  · exact p.le_skip text index
  · exact Nat.le_refl _

/-- Runs threads over the text from a position on. A new thread starts at every position until a match has
been found. -/
def run (p : Program) (text : Array Char) (targets index : Nat) (threads : List Thread) (best : Option Slots)
    (v : Visits) : Option Slots × Visits :=
  let here := p.resume text index (threads.isEmpty && best.isNone)
  let started := if best.isNone && (!p.anchored || here == 0) then [⟨p.start, []⟩] else []
  let all := threads ++ started
  if all.isEmpty then (best, v)
  else
    let (next, found, v) := p.step (.at? text here) here (targets + all.length + 1) all [] v.next
    if here < text.size then run p text targets (here + 1) next.reverse (found.or best) v
    else (found.or best, v)
termination_by text.size - index
decreasing_by
  have := p.le_resume text index (threads.isEmpty && best.isNone)
  omega

/-- The leftmost match from a position on, as the stored positions. -/
def find? (p : Program) (text : Array Char) (index : Nat) : Option Slots :=
  (p.run text p.targets index [] none (.start p.code.size)).1

/-- Whether a program finds a match anywhere in a text. -/
def isMatch (p : Program) (s : String) : Bool := (p.find? s.toList.toArray 0).isSome

/-- A match: where it starts and ends, and the positions stored by its groups. -/
structure Match where
  first : Nat
  last : Nat
  slots : Slots

/-- The match that some stored positions describe. -/
def matchOf (slots : Slots) : Option Match :=
  match slots.lookup 0, slots.lookup 1 with
  | some a, some b => some ⟨a, b, slots⟩
  | _, _ => none

/-- All matches from left to right that do not overlap, after those found before, which are given in reverse.
An empty match directly after the one before it is passed over. The fuel bounds the number of searches. -/
def matchesFrom (p : Program) (text : Array Char) (targets : Nat) :
    Nat → Nat → Option Nat → List Match → Visits → List Match
  | 0, _, _, found, _ => found.reverse
  | fuel + 1, index, lastEnd, found, v =>
    let (slots, v) := p.run text targets index [] none v
    match slots.bind matchOf with
    | none => found.reverse
    | some m =>
      if m.first = m.last ∧ lastEnd = some m.last then
        if index < text.size then matchesFrom p text targets fuel (index + 1) lastEnd found v
        else found.reverse
      else matchesFrom p text targets fuel m.last (some m.last) (m :: found) v

/-- All matches in a text. -/
def allMatches (p : Program) (text : Array Char) : List Match :=
  p.matchesFrom text p.targets (2 * text.size + 2) 0 none [] (.start p.code.size)

end Program

end Regex

end SparqlAlgebra

import SparqlAlgebra.Regex.Node
import SparqlAlgebra.Text.Utf8Range

/-!
# Sizes of patterns

Patterns that are too large are refused. The size of a pattern is that of two automata over the bytes of
UTF-8, one that reads texts forwards and one that reads them backwards. Their states are counted in the order
in which they are made, since a set of characters shares states as far as a table of limited size remembers
them, and their places in it depend on their numbers.
-/

namespace SparqlAlgebra

namespace Regex

namespace Size

/-- The greatest number of bytes that an automaton may have. -/
def limit : Nat := 1000000

/-- Bytes of a state without its transitions. -/
def stateBytes : Nat := 32

/-- Bytes of a transition on a range of bytes, in a state with several of them. -/
def edgeBytes : Nat := 8

/-- Bytes of a target of a state with alternatives. -/
def targetBytes : Nat := 4

/-- What has been made of an automaton. -/
structure Tally where
  /-- The number of states. -/
  states : Nat
  /-- The bytes that they take. -/
  bytes : Nat
  deriving Inhabited

namespace Tally

/-- Whether the automaton has become too large. -/
def exceeds (t : Tally) : Bool := limit < t.bytes

/-- Adds states without transitions of their own. -/
def add (t : Tally) (n : Nat) : Tally := ⟨t.states + n, t.bytes + n * stateBytes⟩

/-- Adds a state with transitions. -/
def addEdges (t : Tally) (n : Nat) : Tally := ⟨t.states + 1, t.bytes + stateBytes + n * edgeBytes⟩

/-- Adds targets to states with alternatives. -/
def addTargets (t : Tally) (n : Nat) : Tally := { t with bytes := t.bytes + n * targetBytes }

/-- Repeats a step, but stops when the automaton is too large. -/
def iterate (step : Tally → Tally) : Nat → Tally → Tally
  | 0, t => t
  | n + 1, t => if t.exceeds then t else iterate step n (step t)

end Tally

/-! Tables of limited size. A key that comes later takes the place of an earlier one. -/

/-- A transition of a state for a set of characters. -/
structure Edge where
  /-- The first byte. -/
  first : Nat
  /-- The last byte. -/
  last : Nat
  /-- The state that the transition leads to. -/
  next : Nat
  deriving DecidableEq

/-- Mixes a number into a sum. -/
def mix (h : UInt64) (n : Nat) : UInt64 := (h ^^^ n.toUInt64) * 1099511628211

/-- Mixes a transition into a hash. -/
def Edge.mixInto (h : UInt64) (e : Edge) : UInt64 := mix (mix (mix h e.first) e.last) e.next

/-- The place of some transitions in a table. -/
def placeOf (size : Nat) (es : List Edge) : Nat :=
  (es.foldl Edge.mixInto 14695981039346656037).toNat % size

/-- The automaton of a set while it is made. -/
structure Building where
  /-- What the automaton has so far. -/
  tally : Tally
  /-- States that can be used again, by their transitions. -/
  known : Array (Option (List Edge × Nat))

namespace Building

/-- Starts a set with a table of some size. -/
def start (t : Tally) (size : Nat) : Building := ⟨t, Array.replicate size none⟩

/-- A state with the transitions that are given by `key`: a known one, or a new one that `make` adds. -/
def state (b : Building) (key : List Edge) (make : Tally → Tally) : Nat × Building :=
  let place := placeOf b.known.size key
  match b.known.getD place none with
  | some (es, n) => if es = key then (n, b) else insert place
  | none => insert place
where
  insert (place : Nat) : Nat × Building :=
    (b.tally.states, ⟨make b.tally, b.known.setIfInBounds place (some (key, b.tally.states))⟩)

/-- The state that the forms lead on from, and before it the states after their first bytes. The depth bounds
the length of the forms; those that end lead to `target`. -/
def forwards (target : Nat) : Nat → List (List (Nat × Nat)) → Building → Nat × Building
  | 0, _, b => (target, b)
  | depth + 1, forms, b =>
    let groups := forms.splitBy fun f g => f.head? == g.head?
    let (edges, b) := groups.foldl (fun (edges, b) group =>
      match group with
      | (r :: rest) :: _ =>
        if rest.isEmpty then (⟨r.1, r.2, target⟩ :: edges, b)
        else
          let (n, b) := forwards target depth (group.map List.tail) b
          (⟨r.1, r.2, n⟩ :: edges, b)
      | _ => (edges, b)) ([], b)
    b.state edges.reverse fun t => t.addEdges edges.length

/-- The states that read a form from its last byte to its first, and then go on at `target`. -/
def backwards (target : Nat) (form : List (Nat × Nat)) (b : Building) : Nat × Building :=
  form.foldl (fun (n, b) r => b.state [⟨r.1, r.2, n⟩] fun t => t.add 1) (target, b)

end Building

/-- The forms of all characters of a set. -/
def formsOf (s : CharSet) : List (List (Nat × Nat)) :=
  s.ranges.toList.flatMap fun r => Utf8.forms r.1 r.2

/-- Counts a set of characters. Sets of one-byte characters need one state and its target. -/
def countSet (reverse : Bool) (s : CharSet) (t : Tally) : Tally :=
  if s.isAscii then (t.add 1).addEdges s.ranges.size
  else if reverse then
    let forms := formsOf s
    let target := t.states + 1
    let b := forms.foldl (fun b f => (Building.backwards target f b).2) (Building.start (t.add 2) 1000)
    b.tally.addTargets forms.length
  else
    (Building.forwards t.states 4 (formsOf s) (Building.start (t.add 1) 10000)).2.tally

/-! Alternatives that are texts share their beginnings. -/

/-- A state of the automaton of several texts. Its transitions are kept in the order of bytes within parts; a
text that ends at the state closes a part. -/
structure Fork where
  /-- Numbers of transitions of the closed parts. -/
  closed : List Nat
  /-- The transitions of the open part, with the places of their targets. -/
  «open» : List (Nat × Nat)
  deriving Inhabited

namespace Fork

/-- A state without transitions. -/
def empty : Fork := ⟨[], []⟩

/-- Whether no transition leaves a state. -/
def isLeaf (f : Fork) : Bool := f.open.isEmpty && f.closed.all (· == 0)

/-- Closes the open part at the end of a text. A leaf at which a text has ended already stays as it is. -/
def close (f : Fork) : Fork :=
  if f.isLeaf && !f.closed.isEmpty then f else ⟨f.open.length :: f.closed, []⟩

/-- Counts the state: one for each part with transitions, and one that chooses among these and the ends of
texts. -/
def count (f : Fork) (t : Tally) : Tally :=
  let parts := (f.open.length :: f.closed).filter (0 < ·)
  let t := parts.foldl (fun t n => if n = 1 then t.add 1 else t.addEdges n) t
  (t.add 1).addTargets (parts.length + f.closed.length)

end Fork

/-- Adds a text from a state on. -/
def addText (forks : Array Fork) (place : Nat) : List Nat → Array Fork
  | [] => forks.modify place Fork.close
  | b :: bs =>
    match (forks.getD place .empty).open.lookup b with
    | some next => addText forks next bs
    | none =>
      let next := forks.size
      addText ((forks.modify place fun f => { f with «open» := (b, next) :: f.open }).push .empty) next bs

/-- Counts alternatives that are texts. -/
def countTexts (reverse : Bool) (texts : List (List Char)) (t : Tally) : Tally :=
  let forks := texts.foldl (fun forks cs =>
    let bytes := cs.flatMap fun c => Utf8.encode c.toNat
    addText forks 0 (if reverse then bytes.reverse else bytes)) #[.empty]
  (forks.toList.filter (!·.isLeaf)).foldl (fun t f => f.count t) (t.add 1)

/-- The characters of a pattern that is a text. -/
def asText? : Node → Option (List Char)
  | .text cs => some cs
  | _ => none

mutual

/-- Counts a pattern. -/
def count (reverse : Bool) : Node → Tally → Tally
  | .empty, t => t.add 1
  | .text cs, t => t.add (cs.foldl (fun n c => n + c.utf8Size) 0)
  | .set s, t => countSet reverse s t
  | .assertion _, t => t.add 1
  | .sequence parts, t => if reverse then countBack reverse parts t else countParts reverse parts t
  | .choice branches, t =>
    match branches.mapM asText? with
    | some texts => countTexts reverse texts t
    | none => (countBranches reverse 0 branches t).addTargets branches.length
  | .repeat min max _ inner, t =>
    let copy := count reverse inner
    match min, max with
    | 0, some 1 => ((copy (t.add 1)).add 1).addTargets 2
    | 0, none =>
      if inner.alwaysConsumes then (copy (t.add 1)).addTargets 2 else ((copy t).add 3).addTargets 4
    | n + 1, none => ((Tally.iterate copy (n + 1) t).add 1).addTargets 2
    | min, some max =>
      let t := if min = 0 then t.add 1 else Tally.iterate copy min t
      if min = max then t
      else Tally.iterate (fun t => (copy (t.add 1)).addTargets 2) (max - min) (t.add 1)
  | .capture _ inner, t => if reverse then count reverse inner t else (count reverse inner (t.add 1)).add 1

/-- Counts patterns that follow one another. -/
def countParts (reverse : Bool) : List Node → Tally → Tally
  | [], t => t
  | n :: ns, t => countParts reverse ns (count reverse n t)

/-- Counts parts from the last to the first. -/
def countBack (reverse : Bool) : List Node → Tally → Tally
  | [], t => t
  | n :: ns, t => count reverse n (countBack reverse ns t)

/-- Counts branches; the state that chooses and the one where they meet come after the second. -/
def countBranches (reverse : Bool) (seen : Nat) : List Node → Tally → Tally
  | [], t => t
  | n :: ns, t =>
    let t := count reverse n t
    countBranches reverse (seen + 1) ns (if seen = 1 then t.add 2 else t)

end

/-- The size of a whole pattern in one direction. Unless it is anchored where reading starts, a loop over all
bytes comes first. -/
def whole (reverse : Bool) (n : Node) : Tally :=
  let anchored := if reverse then n.isAnchoredAtEnd else n.isAnchoredAtStart
  let t : Tally := ⟨0, 0⟩
  let t := if anchored then t.add 1 else ((t.add 2).addEdges 1).addTargets 2
  (count reverse (.capture 0 n) t).add 1

mutual

/-- A number of bytes that a pattern does not exceed in either direction. -/
def bound : Node → Nat
  | .empty => 32
  | .text cs => 128 * cs.length
  | .set s => (formsOf s).foldl (fun k f => k + 4 + 40 * f.length) 128
  | .assertion _ => 32
  | .sequence parts => bounds 0 parts
  | .choice branches => 128 + 4 * bounds 0 branches
  | .repeat min max _ inner => 128 + Nat.max (Nat.max min (max.getD 0)) 1 * (40 + bound inner)
  | .capture _ inner => 64 + bound inner

/-- A bound on the size of several patterns together, added to a number. -/
def bounds (sofar : Nat) : List Node → Nat
  | [] => sofar
  | n :: ns => bounds (sofar + 40 + bound n) ns

end

/-- Whether a pattern is a long list of texts, which is looked up without an automaton. -/
def isTextList : Node → Bool
  | .choice branches => 3000 ≤ branches.length && branches.all fun n => (asText? n).isSome
  | _ => false

/-- Whether a pattern is not too large. -/
def fits (n : Node) : Bool :=
  bound n + 512 ≤ limit || isTextList n || (!(whole false n).exceeds && !(whole true n).exceeds)

end Size

end Regex

end SparqlAlgebra

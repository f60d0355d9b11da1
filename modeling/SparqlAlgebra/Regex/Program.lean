import SparqlAlgebra.Regex.Parser
import SparqlAlgebra.Regex.Size

/-!
# Compiled patterns

A pattern is compiled to instructions that are followed by matching. Instructions are emitted from the end of
the pattern to its start, so that each knows where it goes on.
-/

namespace SparqlAlgebra

namespace Regex

/-- One instruction. Targets are positions in the program. -/
inductive Instruction where
  /-- Consumes the character. -/
  | char (c : Char) (next : Nat)
  /-- Consumes a character of the set. -/
  | set (chars : CharSet) (next : Nat)
  /-- Goes on at any of the targets, an earlier one being preferred. -/
  | split (targets : List Nat)
  /-- Stores the position in a slot. -/
  | save (slot : Nat) (next : Nat)
  | assertion (a : Assertion) (next : Nat)
  | accept
  deriving Inhabited

/-- The instructions of a program. -/
abbrev Code := Array Instruction

namespace Node

/-- Appends an instruction and gives its position. -/
def emit (code : Code) (i : Instruction) : Nat × Code := (code.size, code.push i)

/-- A choice that prefers going on in `body` if it is greedy. -/
def loopOr (greedy : Bool) (body out : Nat) : Instruction :=
  .split (if greedy then [body, out] else [out, body])

/-- Applies a step `n` times, threading target and code. -/
def iterate (step : Nat → Code → Nat × Code) : Nat → Nat → Code → Nat × Code
  | 0, next, code => (next, code)
  | n + 1, next, code =>
    let (entry, code) := step next code
    iterate step n entry code

mutual

/-- Compiles a pattern so that it goes on at `next`. Gives the entry and the extended code. -/
def compile : Node → Nat → Code → Nat × Code
  | .empty, next, code => (next, code)
  | .text cs, next, code =>
    cs.foldr (fun c (next, code) => emit code (.char c next)) (next, code)
  | .set s, next, code => emit code (.set s next)
  | .assertion a, next, code => emit code (.assertion a next)
  | .sequence parts, next, code => compileParts parts next code
  | .choice branches, next, code => compileBranches branches next [] code
  | .capture i inner, next, code =>
    let (close, code) := emit code (.save (2 * i + 1) next)
    let (entry, code) := inner.compile close code
    emit code (.save (2 * i) entry)
  | .repeat min max greedy inner, next, code =>
    match max with
    | some max =>
      let optional (entry : Nat) (code : Code) : Nat × Code :=
        let (body, code) := inner.compile entry code
        emit code (loopOr greedy body next)
      let (entry, code) := iterate optional (max - min) next code
      iterate inner.compile min entry code
    | none =>
      let loop := code.size
      let code := code.push .accept
      let (body, code) := inner.compile loop code
      let code := code.setIfInBounds loop (loopOr greedy body next)
      if min = 0 then
        if inner.alwaysConsumes then (loop, code) else emit code (loopOr greedy body next)
      else iterate inner.compile (min - 1) body code

/-- Compiles patterns that follow one another. -/
def compileParts : List Node → Nat → Code → Nat × Code
  | [], next, code => (next, code)
  | n :: ns, next, code =>
    let (entry, code) := compileParts ns next code
    n.compile entry code

/-- Compiles branches that all go on at `next`. The entries are collected in reverse. -/
def compileBranches : List Node → Nat → List Nat → Code → Nat × Code
  | [], _, entries, code => emit code (.split entries.reverse)
  | n :: ns, next, entries, code =>
    let (entry, code) := n.compile next code
    compileBranches ns next (entry :: entries) code

end

/-- The characters of a text that can come first. -/
def firstOf : List Char → CharSet
  | [] => .empty
  | c :: _ => .singleton c.toNat

mutual

/-- Sets that hold the first character of each match that takes one. -/
def starts : Node → List CharSet
  | .text cs => [firstOf cs]
  | .set s => [s]
  | .sequence parts => startsOfParts parts
  | .choice branches => startsOfBranches branches
  | .repeat _ _ _ inner => inner.starts
  | .capture _ inner => inner.starts
  | _ => []

/-- The sets in which a match of patterns that follow one another can start. -/
def startsOfParts : List Node → List CharSet
  | [] => []
  | n :: ns => if n.alwaysConsumes then n.starts else n.starts ++ startsOfParts ns

/-- The sets in which a match of any of the patterns can start. -/
def startsOfBranches : List Node → List CharSet
  | [] => []
  | n :: ns => n.starts ++ startsOfBranches ns

end

end Node

/-- A compiled pattern. -/
structure Program where
  /-- The instructions. -/
  code : Code
  /-- The instruction to start at. -/
  start : Nat
  /-- Number of capture groups. -/
  groups : Nat
  /-- The groups that have names. -/
  names : List (String × Nat)
  /-- Whether matches start at the start of the text only. -/
  anchored : Bool
  /-- The characters that matches start with, unless a match may be empty. -/
  first : Option CharSet

namespace Program

/-- Compiles a pattern with its capture groups. -/
def ofNode (node : Node) (groups : Nat) (names : List (String × Nat)) : Program :=
  let (start, code) := (Node.capture 0 node).compile 0 #[.accept]
  { code, start, groups, names
    anchored := node.isAnchoredAtStart
    first := if node.alwaysConsumes then some (.unions node.starts) else none }

/-- Compiles the text of a pattern, unless it is ill-formed or too large. -/
def ofText? (fl : Flags) (s : String) : Option Program :=
  (parse? fl s.toList).bind fun (node, groups, names) =>
    if Size.fits node then some (ofNode node groups names) else none

/-- Number of targets of all instructions. -/
def targets (p : Program) : Nat :=
  p.code.foldl (fun n i => match i with | .split ts => n + ts.length | _ => n + 1) 0

end Program

end Regex

end SparqlAlgebra

import SparqlAlgebra.Regex.Match

/-!
# Replacing matches

Each match is replaced by a text in which a dollar sign starts a reference to a group, by name or number and
optionally in braces; two of them stand for one.
-/

namespace SparqlAlgebra

namespace Regex

/-- A piece of a replacement. -/
inductive Piece where
  | char (c : Char)
  /-- What the group has matched, nothing if it did not take part. -/
  | group (i : Nat)

namespace Program

/-- The group with a number or a name, if there is one. A plus sign may stand before the number. -/
def groupOf? (p : Program) (name : List Char) : Option Nat :=
  let digits := if name.head? = some '+' then name.tail else name
  if !digits.isEmpty && digits.all Char.isDigit then
    let i := digits.foldl (fun n c => 10 * n + (c.toNat - 48)) 0
    if i ≤ p.groups then some i else none
  else p.names.lookup (String.ofList name)

/-- Whether a character may stand in the name of a group that is not in braces. -/
def isReferenceChar (c : Char) : Bool := c.isAlphanum || c == '_'

/-- The pieces of a replacement. The fuel is never used up, since each piece takes a character. -/
def pieces (p : Program) : Nat → List Char → List Piece
  | fuel + 1, '$' :: r =>
    match r with
    | '$' :: r => .char '$' :: pieces p fuel r
    | '{' :: body =>
      let name := body.takeWhile (· != '}')
      match body.drop name.length with
      | _ :: after => ((p.groupOf? name).toList.map .group) ++ pieces p fuel after
      | [] => .char '$' :: pieces p fuel r
    | _ =>
      let name := r.takeWhile isReferenceChar
      if name.isEmpty then .char '$' :: pieces p fuel r
      else ((p.groupOf? name).toList.map .group) ++ pieces p fuel (r.drop name.length)
  | fuel + 1, c :: r => .char c :: pieces p fuel r
  | _, _ => []

/-- Appends a piece for a match. -/
def expand (text : Array Char) (m : Match) (out : Array Char) : Piece → Array Char
  | .char c => out.push c
  | .group i =>
    match m.slots.lookup (2 * i), m.slots.lookup (2 * i + 1) with
    | some a, some b => out ++ text.extract a b
    | _, _ => out

/-- Appends what stands before the match and what replaces it. `done` is where the text has been taken up
to. -/
def replaceOne (text : Array Char) (pieces : List Piece) (state : Nat × Array Char) (m : Match) :
    Nat × Array Char :=
  (m.last, pieces.foldl (expand text m) (state.2 ++ text.extract state.1 m.first))

/-- Replaces all matches in a text. -/
def replaceAll (p : Program) (s : String) (replacement : String) : String :=
  let text := s.toList.toArray
  let pieces := p.pieces (replacement.length + 1) replacement.toList
  let (done, out) := (p.allMatches text).foldl (replaceOne text pieces) (0, #[])
  String.ofList (out ++ text.extract done text.size).toList

end Program

/-- A pattern whose characters all stand for themselves. -/
def escape (s : String) : String :=
  String.ofList (s.toList.flatMap fun c =>
    if "\\.+*?()|[]\x7b\x7d^$#&-~".toList.contains c then ['\\', c] else [c])

/-- The flags named by the characters of a text: `s`, `m`, `i` and `x`, besides `q`, which takes the
pattern literally. -/
def flagsOf? (s : String) : Option Flags :=
  s.toList.foldlM (fun fl c =>
    match c with
    | 's' => some { fl with dotAll := true }
    | 'm' => some { fl with multiLine := true }
    | 'i' => some { fl with ignoreCase := true }
    | 'x' => some { fl with extended := true }
    | 'q' => some fl
    | _ => none) {}

/-- Compiles a pattern with its flags. -/
def compile? (pattern : String) (flags : String) : Option Program :=
  (flagsOf? flags).bind fun fl =>
    Program.ofText? fl (if flags.toList.contains 'q' then escape pattern else pattern)

end Regex

end SparqlAlgebra

import SparqlAlgebra.Regex.CharSet

/-!
# Patterns

What a pattern is made of, in a simplified form. Flags have been applied already: a set of characters is
closed under case where case is ignored, and each assertion says what it looks at. The functions that put
patterns together keep the form simple: neighbouring characters become one text, sequences and alternatives
are flat, alternatives that are single characters become one set, and what all alternatives start with stands
before them.
-/

namespace SparqlAlgebra

namespace Regex

/-- A condition on a position that consumes nothing. -/
inductive Assertion where
  | textStart
  | textEnd
  | lineStart
  | lineEnd
  /-- Start and end of a line that may also end with a carriage return. -/
  | crLineStart
  | crLineEnd
  | wordBoundary (unicode : Bool)
  | notWordBoundary (unicode : Bool)
  | wordStart (unicode : Bool)
  | wordEnd (unicode : Bool)
  | wordStartHalf (unicode : Bool)
  | wordEndHalf (unicode : Bool)
  deriving DecidableEq, Inhabited

/-- A pattern. -/
inductive Node where
  | empty
  /-- One character after another. -/
  | text (cs : List Char)
  /-- One character of a set that has none or several. -/
  | set (chars : CharSet)
  | assertion (a : Assertion)
  | sequence (parts : List Node)
  /-- Alternatives, of which an earlier one is preferred. -/
  | choice (branches : List Node)
  /-- At least `min` times, and at most `max` times if that is given. -/
  | repeat (min : Nat) (max : Option Nat) (greedy : Bool) (inner : Node)
  | capture (index : Nat) (inner : Node)
  deriving Inhabited

namespace Node

mutual

/-- Whether two patterns are written alike. -/
def same : Node → Node → Bool
  | .empty, .empty => true
  | .text a, .text b => a == b
  | .set a, .set b => a == b
  | .assertion a, .assertion b => a == b
  | .sequence as, .sequence bs => sameAll as bs
  | .choice as, .choice bs => sameAll as bs
  | .repeat m n g a, .repeat m' n' g' b => m == m' && n == n' && g == g' && same a b
  | .capture i a, .capture j b => i == j && same a b
  | _, _ => false

/-- Whether two lists have the same patterns. -/
def sameAll : List Node → List Node → Bool
  | [], [] => true
  | a :: as, b :: bs => same a b && sameAll as bs
  | _, _ => false

end

mutual

/-- Whether the pattern matches the empty text only. -/
def isEmptyOnly : Node → Bool
  | .empty => true
  | .text _ => false
  | .set _ => false
  | .assertion _ => true
  | .sequence parts => areEmptyOnly parts
  | .choice branches => areEmptyOnly branches
  | .repeat _ _ _ inner => inner.isEmptyOnly
  | .capture _ inner => inner.isEmptyOnly

/-- Whether all patterns match the empty text only. -/
def areEmptyOnly : List Node → Bool
  | [] => true
  | n :: ns => n.isEmptyOnly && areEmptyOnly ns

end

mutual

/-- Whether every match takes a character, as far as that is known: of a pattern with a set of no characters
it is not. -/
def consumes? : Node → Option Bool
  | .empty => some false
  | .text _ => some true
  | .set s => if s.isEmpty then none else some true
  | .assertion _ => some false
  | .sequence parts => someConsumes? false parts
  | .choice branches => allConsume? true branches
  | .repeat min _ _ inner => inner.consumes?.map fun b => b && 0 < min
  | .capture _ inner => inner.consumes?

/-- Whether one of the parts, or what comes before them, takes a character. -/
def someConsumes? (sofar : Bool) : List Node → Option Bool
  | [] => some sofar
  | n :: ns =>
    match n.consumes? with
    | some b => someConsumes? (sofar || b) ns
    | none => none

/-- Whether all of the branches, and those before them, take a character. -/
def allConsume? (sofar : Bool) : List Node → Option Bool
  | [] => some sofar
  | n :: ns =>
    match n.consumes? with
    | some b => allConsume? (sofar && b) ns
    | none => none

end

/-- Whether every match takes a character. -/
def alwaysConsumes (n : Node) : Bool := n.consumes? == some true

mutual

/-- Whether every match starts at the start of the text, by what the pattern begins with. -/
def isAnchoredAtStart : Node → Bool
  | .assertion a => a == .textStart
  | .sequence parts => someAnchoredAtStart parts
  | .choice branches => allAnchoredAtStart branches
  | .repeat min _ _ inner => 0 < min && inner.isAnchoredAtStart
  | .capture _ inner => inner.isAnchoredAtStart
  | _ => false

/-- The same for a sequence: the parts count up to the first that can take a character. -/
def someAnchoredAtStart : List Node → Bool
  | [] => false
  | n :: ns => n.isAnchoredAtStart || (n.isEmptyOnly && someAnchoredAtStart ns)

/-- Whether all patterns start at the start of the text. -/
def allAnchoredAtStart : List Node → Bool
  | [] => true
  | n :: ns => n.isAnchoredAtStart && allAnchoredAtStart ns

end

mutual

/-- Whether every match ends at the end of the text, by what the pattern ends with. -/
def isAnchoredAtEnd : Node → Bool
  | .assertion a => a == .textEnd
  | .sequence parts => someAnchoredAtEnd parts
  | .choice branches => allAnchoredAtEnd branches
  | .repeat min _ _ inner => 0 < min && inner.isAnchoredAtEnd
  | .capture _ inner => inner.isAnchoredAtEnd
  | _ => false

/-- The same for a sequence: the parts count from the last that can take a character. -/
def someAnchoredAtEnd : List Node → Bool
  | [] => false
  | n :: ns => someAnchoredAtEnd ns || (areEmptyOnly ns && n.isAnchoredAtEnd)

/-- Whether all patterns end at the end of the text. -/
def allAnchoredAtEnd : List Node → Bool
  | [] => true
  | n :: ns => n.isAnchoredAtEnd && allAnchoredAtEnd ns

end

/-- A pattern of one character of a set. -/
def ofSet (s : CharSet) : Node :=
  match s.only? with
  | some n => .text [Char.ofNat n]
  | none => .set s

/-- Puts a pattern in front of simplified parts. -/
def addPart (n : Node) (parts : List Node) : List Node :=
  match n, parts with
  | .empty, parts => parts
  | .text a, .text b :: parts => .text (a ++ b) :: parts
  | n, parts => n :: parts

/-- Puts a pattern in front of simplified parts, the parts of a sequence one by one. -/
def addParts (n : Node) (parts : List Node) : List Node :=
  match n with
  | .sequence ns => ns.foldr addPart parts
  | n => addPart n parts

/-- One pattern after another. -/
def cat (ns : List Node) : Node :=
  match ns.foldr addParts [] with
  | [] => .empty
  | [n] => n
  | parts => .sequence parts

/-- The alternatives that a pattern consists of. -/
def branches : Node → List Node
  | .choice ns => ns
  | n => [n]

/-- The set of a pattern that is one character. -/
def asCharacter? : Node → Option CharSet
  | .text [c] => some (.singleton c.toNat)
  | _ => none

/-- The set of characters that a pattern consists of. -/
def asSet? : Node → Option CharSet
  | .set s => some s
  | _ => none

/-- The parts that two sequences have in common at their start. -/
def commonStart : List Node → List Node → List Node
  | a :: as, b :: bs => if same a b then a :: commonStart as bs else []
  | _, _ => []

/-- The parts of a pattern that is a sequence. -/
def parts? : Node → Option (List Node)
  | .sequence ns => some ns
  | _ => none

/-- What all of several sequences start with. -/
def commonStarts : List (List Node) → List Node
  | [] => []
  | ns :: rest => rest.foldl commonStart ns

/-- Alternatives that do not all start alike. -/
def oneOf (ns : List Node) : Node :=
  match ns with
  | [] => .set .empty
  | [n] => n
  | ns =>
    match (ns.mapM asCharacter?).or (ns.mapM asSet?) with
    | some ss => ofSet (.unions ss)
    | none => .choice ns

/-- Alternatives, an earlier one being preferred. After their common start they do not start alike, since
those of a single alternative never do. -/
def alt (ns : List Node) : Node :=
  let ns := ns.flatMap branches
  match ns, ns.mapM parts? with
  | _ :: _ :: _, some sequences =>
    let start := commonStarts sequences
    if start.isEmpty then oneOf ns
    else cat (start ++ [oneOf ((sequences.map fun ps => cat (ps.drop start.length)).flatMap branches)])
  | ns, _ => oneOf ns

/-- A repetition. What matches the empty text only is repeated at most once. -/
def times (min : Nat) (max : Option Nat) (greedy : Bool) (inner : Node) : Node :=
  let (min, max) :=
    if inner.isEmptyOnly then (Nat.min min 1, some ((max.map (Nat.min · 1)).getD 1)) else (min, max)
  if min = 0 ∧ max = some 0 then .empty
  else if min = 1 ∧ max = some 1 then inner
  else .repeat min max greedy inner

end Node

end Regex

end SparqlAlgebra

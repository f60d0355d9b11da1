import SparqlAlgebra.Regex.Escape

/-!
# Bracketed sets

Sets are written in brackets as characters, ranges, classes and sets in brackets, joined by operators from
left to right. A pattern must not be nested too deeply, so each set is read with its depth.
-/

namespace SparqlAlgebra

namespace Regex

/-- The greatest depth of a pattern. -/
def depthLimit : Nat := 250

/-- One level more than a depth, unless that is too deep. -/
def deeper? (depth : Nat) : Option Nat := if depth < depthLimit then some (depth + 1) else none

namespace Bracket

/-- A set with the depth of its written form. -/
structure Part where
  set : CharSet
  depth : Nat

/-- How the two sides of an operator between sets are joined. -/
inductive Operator where
  | inter
  | diff
  | symmDiff

/-- Joins two sides, each closed under case. -/
def Operator.join? (fl : Flags) (op : Operator) (a b : Part) : Option Part :=
  let set :=
    match op with
    | .inter => (fl.close a.set).inter (fl.close b.set)
    | .diff => (fl.close a.set).diff (fl.close b.set)
    | .symmDiff => (fl.close a.set).symmDiff (fl.close b.set)
  (deeper? (max a.depth b.depth)).map fun d => ⟨set, d⟩

/-- Items that have been read, the last first. -/
structure Items where
  sets : List CharSet
  depth : Nat

namespace Items

/-- A bracket without items. -/
def empty : Items := ⟨[], 0⟩

/-- Adds a part as an item. -/
def push (is : Items) (p : Part) : Items := ⟨p.set :: is.sets, max is.depth p.depth⟩

/-- The union of the items. Several of them are one level deeper than one. -/
def toPart? (is : Items) : Option Part :=
  match is.sets with
  | [s] => some ⟨s, is.depth⟩
  | [] => some ⟨.empty, 0⟩
  | ss => (deeper? is.depth).map fun d => ⟨.unions ss, d⟩

end Items

/-- Reads a class such as `[:alpha:]` after its first bracket: its set, and whether it is complemented. -/
def readPosix : List Char → Option (CharSet × Bool × List Char)
  | ':' :: r =>
    let negated := r.head? == some '^'
    let r := if negated then r.tail else r
    let name := r.takeWhile (· != ':')
    match r.drop name.length with
    | ':' :: ']' :: r => (CharSet.posix? (String.ofList name)).map (·, negated, r)
    | _ => none
  | _ => none

/-- Reads one character or one escape. -/
def readItem (fl : Flags) : List Char → Option (Escape × List Char)
  | [] => none
  | '\\' :: r => Escape.read? fl r
  | c :: r => some (.char c, r)

/-- The character that decides whether a hyphen before it stands for itself. Blanks are passed over where they
do not count, and of a comment the number sign only. -/
def peek (fl : Flags) (r : List Char) : Option Char :=
  if !fl.extended then r.head?
  else
    match r.dropWhile Text.isBlank with
    | '#' :: rest => (rest.dropWhile Text.isBlank).head?.or r.head?
    | rest => rest.head?.or r.head?

/-- Reads one item or a range of characters. -/
def readRange (fl : Flags) (cs : List Char) : Option (CharSet × List Char) :=
  (readItem fl cs).bind fun (first, r) =>
    match fl.skipBlank r with
    | [] => none
    | '-' :: after =>
      if peek fl after = some ']' ∨ peek fl after = some '-' then (first.toSet? fl).map (·, '-' :: after)
      else
        (readItem fl (fl.skipBlank after)).bind fun (last, r) =>
          match first, last with
          | .char a, .char b =>
            if a ≤ b ∧ (fl.unicode ∨ b.toNat < 0x80) then some (⟨#[(a.toNat, b.toNat)]⟩, r) else none
          | _, _ => none
    | r => (first.toSet? fl).map (·, r)

/-- Takes the hyphens at the start of a set, which stand for themselves. -/
def readHyphens (fl : Flags) (is : Items) (cs : List Char) : Items × List Char :=
  match cs with
  | '-' :: r => readHyphens fl (is.push ⟨.singleton 45, 0⟩) (fl.skipBlank r)
  | cs => (is, cs)
termination_by cs.length
decreasing_by
  have := fl.length_skipBlank_le r
  simp only [List.length_cons]
  omega

/-- Reads a set after its opening bracket. A closing bracket at the start stands for itself. The fuel is
never used up, since each step takes a character; the level counts the brackets around. -/
def read? (fl : Flags) : Nat → Nat → List Char → Option (Part × List Char)
  | 0, _, _ => none
  | fuel + 1, level, cs =>
    if depthLimit < level then none
    else
      let cs := fl.skipBlank cs
      let negated := cs.head? == some '^'
      let cs := if negated then fl.skipBlank cs.tail else cs
      let (items, cs) := readHyphens fl .empty cs
      let (items, cs) :=
        match items.sets, cs with
        | [], ']' :: r => (items.push ⟨.singleton 93, 0⟩, fl.skipBlank r)
        | _, r => (items, r)
      (readItems fuel level none items cs).bind fun (p, r) =>
        (fl.finish negated p.set).bind fun s => (deeper? p.depth).map fun d => (⟨s, d⟩, r)
where
  /-- Reads items up to the closing bracket. `pending` is the left side of an operator. -/
  readItems : Nat → Nat → Option (Operator × Part) → Items → List Char → Option (Part × List Char)
    | 0, _, _, _, _ => none
    | fuel + 1, level, pending, items, cs =>
      let joined? : Option Part :=
        items.toPart?.bind fun p =>
          match pending with
          | some (op, left) => op.join? fl left p
          | none => some p
      let operator (op : Operator) (r : List Char) : Option (Part × List Char) :=
        joined?.bind fun p => readItems fuel level (some (op, p)) .empty r
      match fl.skipBlank cs with
      | [] => none
      | ']' :: r => joined?.map (·, r)
      | '[' :: r =>
        match readPosix r with
        | some (s, negated, r) =>
          (fl.finish negated s).bind fun s => readItems fuel level pending (items.push ⟨s, 0⟩) r
        | none => (read? fl fuel (level + 1) r).bind fun (p, r) => readItems fuel level pending (items.push p) r
      | '&' :: '&' :: r => operator .inter r
      | '-' :: '-' :: r => operator .diff r
      | '~' :: '~' :: r => operator .symmDiff r
      | cs => (readRange fl cs).bind fun (s, r) => readItems fuel level pending (items.push ⟨s, 0⟩) r

end Bracket

end Regex

end SparqlAlgebra

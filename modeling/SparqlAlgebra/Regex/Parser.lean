import SparqlAlgebra.Regex.Bracket

/-!
# Reading patterns

The text of a pattern is read by recursive descent. A text that is not a pattern, or is nested too deeply,
has no value.
-/

namespace SparqlAlgebra

namespace Regex

/-- What has been read of a pattern so far, besides its nodes. -/
structure ParseState where
  /-- The characters that are left. -/
  rest : List Char
  /-- Number of capture groups opened so far. -/
  groups : Nat
  /-- Names of capture groups. -/
  names : List (String × Nat)

namespace Parse

/-- An item of a sequence, with the depth of its written form. -/
structure Item where
  node : Node
  depth : Nat
  /-- Whether the item can be repeated. A setting of flags cannot. -/
  repeatable : Bool

/-- An item that is not made of others. -/
def Item.leaf (n : Node) : Item := ⟨n, 0, true⟩

/-- Reads a decimal number with white space around it, which does not count. -/
def readCount (fl : Flags) (cs : List Char) : Option (Nat × List Char) :=
  (digits (cs.dropWhile Text.isBlank)).bind fun (ds, r) =>
    let n := ds.foldl (fun n c => 10 * n + (c.toNat - 48)) 0
    if ds.isEmpty || Nat.pow 2 32 ≤ n then none else some (n, fl.skipBlank (r.dropWhile Text.isBlank))
where
  /-- The digits, after each of which blanks are skipped where they do not count, and what follows them. -/
  digits (cs : List Char) : Option (List Char × List Char) :=
    match cs with
    | [] => some ([], [])
    | c :: r =>
      if c.isDigit then (digits (fl.skipBlank r)).map fun (ds, r) => (c :: ds, r) else some ([], c :: r)
  termination_by cs.length
  decreasing_by
    have := fl.length_skipBlank_le r
    simp only [List.length_cons]
    omega

/-- Reads the bounds of a repetition; the opening brace has been taken. -/
def readBounds (fl : Flags) (cs : List Char) : Option ((Nat × Option Nat) × List Char) :=
  (readCount fl (fl.skipBlank cs)).bind fun (min, r) =>
    match r with
    | '}' :: r => some ((min, some min), r)
    | ',' :: r =>
      match fl.skipBlank r with
      | '}' :: r => some ((min, none), r)
      | r =>
        (readCount fl r).bind fun (max, r) =>
          match r with
          | '}' :: r => if min ≤ max then some ((min, some max), r) else none
          | _ => none
    | _ => none

/-- Takes the question mark that makes a repetition lazy. -/
def readGreed (fl : Flags) (cs : List Char) : Bool × List Char :=
  match cs with
  | '?' :: r => (fl.swapGreed, r)
  | r => (!fl.swapGreed, r)

/-- Whether a character may stand in the name of a group. -/
def isNameChar (first : Bool) (c : Char) : Bool :=
  c == '_' || CharSet.nameLetter.contains c.toNat ||
    (!first && (c == '.' || c == '[' || c == ']' || CharSet.nameNumber.contains c.toNat))

/-- Reads the name of a group up to the closing angle bracket. -/
def readName (cs : List Char) : Option (String × List Char) :=
  let name := cs.takeWhile (· != '>')
  match name, cs.drop name.length with
  | c :: rest, _ :: r =>
    if isNameChar true c && rest.all (isNameChar false) then some (String.ofList name, r) else none
  | _, _ => none

/-- How a group starts. -/
inductive Opening where
  | flags (fl : Flags)
  | plain (fl : Flags)
  | captured (name : Option String)

/-- Reads what follows an opening parenthesis. -/
def readOpening (fl : Flags) (cs : List Char) : Option (Opening × List Char) :=
  match fl.skipBlank cs with
  | '?' :: '=' :: _ => none
  | '?' :: '!' :: _ => none
  | '?' :: '<' :: '=' :: _ => none
  | '?' :: '<' :: '!' :: _ => none
  | '?' :: 'P' :: '<' :: r => (readName r).map fun (n, r) => (.captured (some n), r)
  | '?' :: '<' :: r => (readName r).map fun (n, r) => (.captured (some n), r)
  | '?' :: ')' :: _ => none
  | '?' :: r =>
    (fl.read? true [] r).map fun (fl, c, r) => (if c = ')' then .flags fl else .plain fl, r)
  | r => some (.captured none, r)

/-- Opens a capture group. No name may be taken twice. -/
def open? (st : ParseState) (name : Option String) : Option ParseState :=
  let index := st.groups + 1
  match name with
  | none => some { st with groups := index }
  | some n =>
    if st.names.any (·.1 == n) then none
    else some { st with groups := index, names := (n, index) :: st.names }

/-- One branch, from its items in reverse. Several of them are one level deeper than one. -/
def branch? (items : List Item) : Option Item :=
  match items with
  | [] => some (.leaf .empty)
  | [i] => some i
  | is =>
    (deeper? (is.foldl (fun d i => max d i.depth) 0)).map fun d => ⟨.cat (is.reverse.map (·.node)), d, true⟩

/-- Alternatives, given in reverse. Several of them are one level deeper than one. -/
def alternatives? (branches : List Item) : Option Item :=
  match branches with
  | [b] => some b
  | bs =>
    (deeper? (bs.foldl (fun d b => max d b.depth) 0)).map fun d => ⟨.alt (bs.reverse.map (·.node)), d, true⟩

/-- A group around an item. -/
def group? (wrap : Node → Node) (i : Item) : Option Item :=
  (deeper? i.depth).map fun d => ⟨wrap i.node, d, true⟩

/-- Repeats the last of some items, given in reverse. -/
def repeatLast? (min : Nat) (max : Option Nat) (greedy : Bool) : List Item → Option (List Item)
  | [] => none
  | i :: is =>
    if i.repeatable then
      (deeper? i.depth).map fun d => ⟨.times min max greedy i.node, d, true⟩ :: is
    else none

/-- Reads alternatives up to a closing parenthesis, which is left, or the end. `branches` and `items` hold
what has been read, the last first. The fuel is never used up, since each step takes a character; the level
counts the groups around. -/
def readAlternatives :
    Nat → Nat → Flags → List Item → List Item → ParseState → Option (Item × ParseState)
  | 0, _, _, _, _, _ => none
  | fuel + 1, level, fl, branches, items, st =>
    let push (i : Item) (r : List Char) : Option (Item × ParseState) :=
      readAlternatives fuel level fl branches (i :: items) { st with rest := r }
    let again (min : Nat) (max : Option Nat) (g : Bool × List Char) : Option (Item × ParseState) :=
      (repeatLast? min max g.1 items).bind fun items =>
        readAlternatives fuel level fl branches items { st with rest := g.2 }
    let finish (r : List Char) : Option (Item × ParseState) :=
      (branch? items).bind fun b => (alternatives? (b :: branches)).map (·, { st with rest := r })
    match fl.skipBlank st.rest with
    | [] => finish []
    | ')' :: r => finish (')' :: r)
    | '|' :: r =>
      (branch? items).bind fun b => readAlternatives fuel level fl (b :: branches) [] { st with rest := r }
    | '(' :: r =>
      (readOpening fl r).bind fun (opening, r) =>
        match opening with
        | .flags fl =>
          readAlternatives fuel level fl branches (⟨.empty, 0, false⟩ :: items) { st with rest := r }
        | .plain inner =>
          (readGroup fuel (level + 1) inner { st with rest := r }).bind fun (i, st) =>
            (group? id i).bind fun i => readAlternatives fuel level fl branches (i :: items) st
        | .captured name =>
          (open? { st with rest := r } name).bind fun opened =>
            (readGroup fuel (level + 1) fl opened).bind fun (i, st) =>
              (group? (.capture opened.groups) i).bind fun i =>
                readAlternatives fuel level fl branches (i :: items) st
    | '[' :: r =>
      (Bracket.read? fl (2 * r.length + 2) 1 r).bind fun (p, r) => push ⟨.ofSet p.set, p.depth, true⟩ r
    | '?' :: r => again 0 (some 1) (readGreed fl r)
    | '*' :: r => again 0 none (readGreed fl r)
    | '+' :: r => again 1 none (readGreed fl r)
    | '{' :: r =>
      (readBounds fl r).bind fun ((min, max), r) => again min max (readGreed fl (fl.skipBlank r))
    | '\\' :: r =>
      (Escape.read? fl r).bind fun (e, r) =>
        match e with
        | .char c => push (.leaf (fl.char c)) r
        | .set s => push (.leaf (.ofSet s)) r
        | .assertion a => push (.leaf (.assertion a)) r
    | '.' :: r => fl.dot?.bind fun s => push (.leaf (.set s)) r
    | '^' :: r => push (.leaf (.assertion (fl.anchor true))) r
    | '$' :: r => push (.leaf (.assertion (fl.anchor false))) r
    | c :: r => push (.leaf (fl.char c)) r
where
  /-- Reads the inside of a group and its closing parenthesis. -/
  readGroup : Nat → Nat → Flags → ParseState → Option (Item × ParseState)
    | 0, _, _, _ => none
    | fuel + 1, level, fl, st =>
      if depthLimit < level then none
      else
        (readAlternatives fuel level fl [] [] st).bind fun (i, st) =>
          match st.rest with
          | ')' :: r => some (i, { st with rest := r })
          | _ => none

end Parse

/-- Reads a whole pattern: its node, the number of its capture groups and their names. -/
def parse? (fl : Flags) (cs : List Char) : Option (Node × Nat × List (String × Nat)) :=
  (Parse.readAlternatives (2 * cs.length + 2) 0 fl [] [] ⟨cs, 0, []⟩).bind fun (i, st) =>
    if st.rest.isEmpty then some (i.node, st.groups, st.names) else none

end Regex

end SparqlAlgebra

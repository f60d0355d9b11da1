import SparqlAlgebra.Rdf.Printer
import SparqlAlgebra.Text.Percent

/-!
# Solutions

A solution binds finitely many variables to terms. It is kept as the list of its bindings in ascending order
of the variable names, so that two solutions that bind the same are equal.
-/

namespace SparqlAlgebra

/-- A finite map from variables to terms. -/
structure Solution where
  /-- The bindings, by ascending names. -/
  entries : List (Variable × Term)
  /-- No name occurs twice, and the names ascend. -/
  ascending : entries.Pairwise fun a b => a.1.name < b.1.name
  deriving DecidableEq

namespace Solution

/-- The solution that binds nothing. -/
def empty : Solution := ⟨[], .nil⟩

instance : Inhabited Solution := ⟨empty⟩

/-- Puts a binding in its place, instead of the one of the same variable if there is one. -/
def insertEntry (v : Variable) (t : Term) : List (Variable × Term) → List (Variable × Term)
  | [] => [(v, t)]
  | e :: es =>
    if v.name < e.1.name then (v, t) :: e :: es
    else if e.1.name < v.name then e :: insertEntry v t es
    else (v, t) :: es

/-- What is in the entries after an insertion is the new entry or was there. -/
theorem mem_insertEntry {v : Variable} {t : Term} {es : List (Variable × Term)} {x : Variable × Term} :
    x ∈ insertEntry v t es → x = (v, t) ∨ x ∈ es := by
  induction es with
  | nil => simp [insertEntry]
  | cons e es ih =>
    unfold insertEntry
    split
    · simp
    · split
      · intro h
        rcases List.mem_cons.1 h with rfl | h
        · simp
        · rcases ih h with rfl | h
          · simp
          · exact .inr (List.mem_cons_of_mem _ h)
      · intro h
        rcases List.mem_cons.1 h with rfl | h
        · simp
        · exact .inr (List.mem_cons_of_mem _ h)

/-- An insertion keeps the names ascending. -/
theorem insertEntry_ascending {v : Variable} {t : Term} {es : List (Variable × Term)}
    (h : es.Pairwise fun a b => a.1.name < b.1.name) :
    (insertEntry v t es).Pairwise fun a b => a.1.name < b.1.name := by
  induction es with
  | nil => simp [insertEntry]
  | cons e es ih =>
    have hes := List.pairwise_cons.1 h
    unfold insertEntry
    split
    · rename_i hlt
      refine List.pairwise_cons.2 ⟨fun x hx => ?_, h⟩
      rcases List.mem_cons.1 hx with rfl | hx
      · exact hlt
      · exact String.lt_trans hlt (hes.1 x hx)
    · rename_i hnlt
      split
      · rename_i hlt
        refine List.pairwise_cons.2 ⟨fun x hx => ?_, ih hes.2⟩
        rcases mem_insertEntry hx with rfl | hx
        · exact hlt
        · exact hes.1 x hx
      · rename_i hngt
        have heq : v.name = e.1.name :=
          String.le_antisymm (String.not_lt.1 hngt) (String.not_lt.1 hnlt)
        refine List.pairwise_cons.2 ⟨fun x hx => ?_, hes.2⟩
        exact heq ▸ hes.1 x hx

/-- Binds a variable, whether it is bound already or not. -/
def insert (s : Solution) (v : Variable) (t : Term) : Solution :=
  ⟨insertEntry v t s.entries, insertEntry_ascending s.ascending⟩

/-- The solution of a list of bindings, the last one of a variable being decisive. -/
def ofList (bs : List (Variable × Term)) : Solution :=
  bs.foldl (fun s b => s.insert b.1 b.2) empty

/-- The term that a variable is bound to. -/
def get? (s : Solution) (v : Variable) : Option Term := s.entries.lookup v

/-- Whether a variable is bound. -/
def binds (s : Solution) (v : Variable) : Bool := (s.get? v).isSome

/-- The number of bound variables. -/
def size (s : Solution) : Nat := s.entries.length

/-- Whether no variable is bound. -/
def isEmpty (s : Solution) : Bool := s.entries.isEmpty

/-- The terms of the bound variables, by ascending names. -/
def terms (s : Solution) : List Term := s.entries.map (·.2)

/-- Keeps the bindings that satisfy the condition. -/
def filter (p : Variable → Term → Bool) (s : Solution) : Solution :=
  ⟨s.entries.filter fun e => p e.1 e.2, s.ascending.filter _⟩

/-- Unbinds a variable. -/
def erase (s : Solution) (v : Variable) : Solution := s.filter fun w _ => w != v

/-- All bindings of both, those of the second being decisive. -/
def union (a b : Solution) : Solution := b.entries.foldl (fun s e => s.insert e.1 e.2) a

/-- The bindings that hold in both. -/
def inter (a b : Solution) : Solution := a.filter fun v t => b.get? v == some t

/-- The bindings of the first that do not hold in the second. -/
def diff (a b : Solution) : Solution := a.filter fun v t => b.get? v != some t

/-- Whether all bindings of the first hold in the second. -/
def isSubset (a b : Solution) : Bool := a.entries.all fun e => b.get? e.1 == some e.2

/-- The two solutions, the one with fewer bindings first. -/
def smallerFirst (a b : Solution) : Solution × Solution := if a.size ≤ b.size then (a, b) else (b, a)

/-- Whether each variable that both bind has the same term in both. -/
def isCompatible (a b : Solution) : Bool :=
  let (small, large) := smallerFirst a b
  small.entries.all fun e => ((large.get? e.1).map (· == e.2)).getD true

/-- Whether some variable is bound in both. -/
def sharesVariable (a b : Solution) : Bool :=
  let (small, large) := smallerFirst a b
  small.entries.any fun e => large.binds e.1

/-- The union of two solutions that are compatible. -/
def merge? (a b : Solution) : Option Solution := if isCompatible a b then some (union a b) else none

/-- Maps each binding to another one or to none. -/
def filterMap (f : Variable → Term → Option (Variable × Term)) (s : Solution) : Solution :=
  ofList (s.entries.filterMap fun e => f e.1 e.2)

/-- Renames variables, or drops their bindings. -/
def renameVariables (f : Variable → Option Variable) (s : Solution) : Solution :=
  s.filterMap fun v t => (f v).map (·, t)

/-- Maps terms, or drops their bindings. -/
def mapTerms (f : Term → Option Term) (s : Solution) : Solution :=
  s.filterMap fun v t => (f t).map (v, ·)

/-- Keeps the bindings of the given variables. -/
def project (s : Solution) (vs : List Variable) : Solution := s.filter fun v _ => vs.contains v

/-- A solution as it is written. -/
def toText (s : Solution) : String :=
  "\x7b" ++ String.intercalate ", " (s.entries.map fun e => e.1.toText ++ " -> " ++ e.2.toText) ++ "\x7d"

/-- A text that identifies a solution: its bindings as a form, with the terms in N-Triples. -/
def key (s : Solution) : String :=
  Percent.encodeForm (s.entries.map fun e => (e.1.name, e.2.toText))

end Solution

/-- A solution with notes: named values that do not take part in comparisons. -/
structure AnnotatedSolution where
  /-- The solution without its notes. -/
  solution : Solution
  /-- The notes, by ascending names. -/
  notes : List (String × String)
  deriving Inhabited

namespace AnnotatedSolution

/-- The empty solution without notes. -/
def empty : AnnotatedSolution := ⟨.empty, []⟩

/-- Puts a note in its place, instead of the one of the same name if there is one. -/
def insertNote (key value : String) : List (String × String) → List (String × String)
  | [] => [(key, value)]
  | n :: ns =>
    if key < n.1 then (key, value) :: n :: ns
    else if n.1 < key then n :: insertNote key value ns
    else (key, value) :: ns

/-- Sets a note; a former one of the same name is lost. -/
def setNote (a : AnnotatedSolution) (key value : String) : AnnotatedSolution :=
  { a with notes := insertNote key value a.notes }

/-- Removes a note. -/
def removeNote (a : AnnotatedSolution) (key : String) : AnnotatedSolution :=
  { a with notes := a.notes.filter (·.1 != key) }

/-- The value of a note. -/
def note? (a : AnnotatedSolution) (key : String) : Option String := a.notes.lookup key

/-- The union of the solutions; the notes of the second are decisive. -/
def union (a b : AnnotatedSolution) : AnnotatedSolution :=
  b.notes.foldl (fun r n => r.setNote n.1 n.2) { a with solution := a.solution.union b.solution }

/-- The union with the notes of both, if the solutions are compatible. -/
def merge? (a b : AnnotatedSolution) : Option AnnotatedSolution :=
  if a.solution.isCompatible b.solution then some (union a b) else none

/-- Changes the solution and keeps the notes. -/
def modify (a : AnnotatedSolution) (f : Solution → Solution) : AnnotatedSolution :=
  { a with solution := f a.solution }

end AnnotatedSolution

end SparqlAlgebra

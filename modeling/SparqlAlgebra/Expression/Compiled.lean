import SparqlAlgebra.Algebra.Pattern
import SparqlAlgebra.Error
import SparqlAlgebra.Function.Call
import SparqlAlgebra.Function.Custom

/-!
# Compiled expressions

An expression whose function calls have been checked. Its tests for solutions are numbered from left to
right, and so are the calls whose value is drawn anew by each evaluation. The current time is a constant.
-/

namespace SparqlAlgebra

/-- A value that is drawn anew by each evaluation. -/
inductive Draw where
  | blankNode | uuidIri | uuidText | fraction
  deriving DecidableEq, Inhabited

/-- An expression that can be evaluated. -/
inductive Compiled where
  | constant (t : Term)
  | var (v : Variable)
  | or (a b : Compiled)
  | and (a b : Compiled)
  | not (a : Compiled)
  | equal (a b : Compiled)
  | sameTerm (a b : Compiled)
  | compare (op : Comparison) (a b : Compiled)
  | member (needle : Compiled) (haystack : List Compiled)
  | arithmetic (op : Arithmetic) (a b : Compiled)
  | sign (op : Sign) (a : Compiled)
  /-- The answer to the test of the given number. -/
  | answer (index : Nat)
  | isBound (v : Variable)
  | choose (condition a b : Compiled)
  | coalesce (es : List Compiled)
  | call (f : Builtin) (args : List Compiled)
  /-- A value drawn at the place of the given number. -/
  | draw (d : Draw) (site : Nat)
  | custom (f : CustomFunction) (args : List Compiled)

/-- A compiled expression without a value. -/
instance : Inhabited Compiled := ⟨.coalesce []⟩

namespace Builtin

/-- The draw that a call without arguments stands for. -/
def draw? : Builtin → Option Draw
  | .bnode => some .blankNode
  | .uuid => some .uuidIri
  | .strUuid => some .uuidText
  | .rand => some .fraction
  | _ => none

end Builtin

namespace Expression

/-- The numbers given so far. -/
structure Numbering where
  /-- Tests for solutions. -/
  tests : Nat
  /-- Values drawn. -/
  draws : Nat

/-- What expressions are compiled against. -/
structure Compiler where
  /-- The custom functions that can be called. -/
  registry : Registry
  /-- The value of the current time. -/
  now : Term

/-- A compilation: it may fail, and it gives numbers. -/
abbrev Compilation := StateT Numbering (Except QueryError)

/-- Gives the next number to a test. -/
def nextTest : Compilation Nat := fun n => .ok (n.tests, { n with tests := n.tests + 1 })

/-- Gives the next number to a draw. -/
def nextDraw : Compilation Nat := fun n => .ok (n.draws, { n with draws := n.draws + 1 })

/-- What a name means for a call with so many arguments. -/
inductive Callee where
  | constant (t : Term)
  | draw (d : Draw)
  | builtin (f : Builtin)
  | custom (f : CustomFunction)

/-- Finds out what is called. -/
def resolve (c : Compiler) (f : FunctionName) (count : Nat) : Except QueryError Callee :=
  match f.builtin? with
  | some b =>
    if !b.accepts count then .error (.argumentCount b.name count)
    else if b = .now then .ok (.constant c.now)
    else
      match b.draw? with
      | some d => if count = 0 then .ok (.draw d) else .ok (.builtin b)
      | none => .ok (.builtin b)
  | none =>
    match f with
    | .keyword b => .ok (.builtin b)
    | .iri i =>
      match c.registry.lookup i with
      | none => .error (.unknownFunction i)
      | some g => if g.accepts count then .ok (.custom g) else .error (.argumentCount i.toText count)

mutual

/-- Compiles an expression. -/
def compile (c : Compiler) : Expression → Compilation Compiled
  | .constant t => pure (.constant t)
  | .var v => pure (.var v)
  | .or a b => return .or (← a.compile c) (← b.compile c)
  | .and a b => return .and (← a.compile c) (← b.compile c)
  | .not a => return .not (← a.compile c)
  | .equal a b => return .equal (← a.compile c) (← b.compile c)
  | .sameTerm a b => return .sameTerm (← a.compile c) (← b.compile c)
  | .compare op a b => return .compare op (← a.compile c) (← b.compile c)
  | .member a es => return .member (← a.compile c) (← compileAll c es)
  | .arithmetic op a b => return .arithmetic op (← a.compile c) (← b.compile c)
  | .sign op a => return .sign op (← a.compile c)
  | .hasSolution _ => return .answer (← nextTest)
  | .isBound v => pure (.isBound v)
  | .choose a b d => return .choose (← a.compile c) (← b.compile c) (← d.compile c)
  | .coalesce es => return .coalesce (← compileAll c es)
  | .call f es => do
    match ← resolve c f es.length with
    | .constant t => return .constant t
    | .draw d => return .draw d (← nextDraw)
    | .builtin b => return .call b (← compileAll c es)
    | .custom g => return .custom g (← compileAll c es)

/-- Compiles several expressions. -/
def compileAll (c : Compiler) : List Expression → Compilation (List Compiled)
  | [] => pure []
  | e :: es => return (← e.compile c) :: (← compileAll c es)

end

/-- An expression ready to be evaluated. -/
structure Ready where
  /-- The compiled expression itself. -/
  root : Compiled
  /-- Number of tests for solutions. -/
  tests : Nat
  /-- Number of values drawn by an evaluation. -/
  draws : Nat
  deriving Inhabited

/-- Compiles an expression with numbers that start at zero. -/
def ready (c : Compiler) (e : Expression) : Except QueryError Ready := do
  let (root, n) ← (e.compile c).run ⟨0, 0⟩
  return ⟨root, n.tests, n.draws⟩

end Expression

end SparqlAlgebra

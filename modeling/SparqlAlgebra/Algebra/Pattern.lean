import SparqlAlgebra.Function.Builtin
import SparqlAlgebra.TriplePattern

/-!
# Patterns and expressions

The algebra of queries: graph patterns, the expressions that filter and extend their solutions, and the
aggregates over groups of solutions. Patterns contain expressions, and expressions contain the patterns
whose existence they test.
-/

namespace SparqlAlgebra

/-- A property path. -/
inductive Path where
  | iri (i : Iri)
  /-- Any predicate but those listed. -/
  | negated (is : List Iri)
  | inverse (p : Path)
  | sequence (p q : Path)
  | alternative (p q : Path)
  | zeroOrMore (p : Path)
  | oneOrMore (p : Path)
  | zeroOrOne (p : Path)
  deriving DecidableEq, Inhabited

/-- A function as it is called: by keyword, or by IRI. -/
inductive FunctionName where
  | keyword (f : Builtin)
  | iri (i : Iri)
  deriving DecidableEq, Inhabited

namespace FunctionName

/-- The built-in function of that name. Of those called by IRI these are the casts. -/
def builtin? : FunctionName → Option Builtin
  | .keyword f => some f
  | .iri i => Builtin.ofCast? i

end FunctionName

/-- The operators that compare values by their order. -/
inductive Comparison where
  | greater | greaterOrEqual | less | lessOrEqual
  deriving DecidableEq, Inhabited

/-- The four operators on numbers. -/
inductive Arithmetic where
  | add | subtract | multiply | divide
  deriving DecidableEq, Inhabited

/-- The signs that can stand before a number. -/
inductive Sign where
  | plus | minus
  deriving DecidableEq, Inhabited

/-- A function of all values of a group. -/
inductive SetFunction where
  | count | sum | avg | min | max | sample
  | groupConcat (separator : Option String)
  | custom (name : Iri)
  deriving DecidableEq, Inhabited

mutual

/-- An expression over the variables of a solution. -/
inductive Expression where
  | constant (t : Term)
  | var (v : Variable)
  | or (a b : Expression)
  | and (a b : Expression)
  | not (a : Expression)
  | equal (a b : Expression)
  | sameTerm (a b : Expression)
  | compare (op : Comparison) (a b : Expression)
  /-- Whether a value is equal to one of a list. -/
  | member (needle : Expression) (haystack : List Expression)
  | arithmetic (op : Arithmetic) (a b : Expression)
  | sign (op : Sign) (a : Expression)
  /-- Whether a pattern has a solution. -/
  | hasSolution (p : Pattern)
  | isBound (v : Variable)
  | choose (condition a b : Expression)
  /-- The first of several expressions that has a value. -/
  | coalesce (es : List Expression)
  | call (f : FunctionName) (args : List Expression)

/-- An aggregate over a group of solutions. -/
inductive Aggregate where
  | countRows (distinct : Bool)
  | apply (f : SetFunction) (distinct : Bool) (e : Expression)

/-- What solutions are sorted by. -/
inductive SortKey where
  | ascending (e : Expression)
  | descending (e : Expression)

/-- A graph pattern. -/
inductive Pattern where
  | bgp (triples : List TriplePattern)
  | path (subject : Slot) (p : Path) (object : Slot)
  | join (a b : Pattern)
  | leftJoin (a b : Pattern) (condition : Option Expression)
  | filter (e : Expression) (inner : Pattern)
  | union (a b : Pattern)
  | minus (a b : Pattern)
  | graph (name : IriSlot) (inner : Pattern)
  | extend (inner : Pattern) (v : Variable) (e : Expression)
  | values (vs : List Variable) (rows : List (List (Option Term)))
  | orderBy (inner : Pattern) (keys : List SortKey)
  | project (inner : Pattern) (vs : List Variable)
  | distinct (inner : Pattern)
  | reduced (inner : Pattern)
  | slice (inner : Pattern) (start : Nat) (length : Option Nat)
  | group (inner : Pattern) (vs : List Variable) (aggregates : List (Variable × Aggregate))
  | service (name : IriSlot) (inner : Pattern) (silent : Bool)

end

/-- An expression without a value. -/
instance : Inhabited Expression := ⟨.coalesce []⟩

/-- The pattern with the empty solution alone. -/
instance : Inhabited Pattern := ⟨.bgp []⟩

/-!
## Variables in scope

The variables that the solutions of a pattern may bind. A query shows exactly these, each one at the place
of its first occurrence. A projection, a group and the right side of a difference hide variables.
-/

namespace Pattern

/-- The variables that the solutions may bind, with repetitions. -/
def scopeOccurrences : Pattern → List Variable
  | .bgp ps => ps.flatMap fun p => [p.subject.var?, p.predicate.var?, p.object.var?].reduceOption
  | .path s _ o => [s.var?, o.var?].reduceOption
  | .join a b => a.scopeOccurrences ++ b.scopeOccurrences
  | .leftJoin a b _ => a.scopeOccurrences ++ b.scopeOccurrences
  | .filter _ inner => inner.scopeOccurrences
  | .union a b => a.scopeOccurrences ++ b.scopeOccurrences
  | .minus a _ => a.scopeOccurrences
  | .graph name inner => name.var?.toList ++ inner.scopeOccurrences
  | .extend inner v _ => v :: inner.scopeOccurrences
  | .values vs _ => vs
  | .orderBy inner _ => inner.scopeOccurrences
  | .project _ vs => vs
  | .distinct inner => inner.scopeOccurrences
  | .reduced inner => inner.scopeOccurrences
  | .slice inner _ _ => inner.scopeOccurrences
  | .group _ vs as => vs ++ as.map (·.1)
  | .service _ inner _ => inner.scopeOccurrences

/-- The variables that the solutions may bind, each at its first occurrence. -/
def inScope (p : Pattern) : List Variable := p.scopeOccurrences.eraseDups

end Pattern

end SparqlAlgebra

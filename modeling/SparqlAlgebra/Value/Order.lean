import SparqlAlgebra.Value.Literal

/-!
# The total order of terms

Unbound comes first, then blank nodes, IRIs and literals. Literals are grouped by the kind of their value
and ordered by value within a group; what is left is decided by datatype, lexical form and language, so
that only a term itself is equal to it.
-/

namespace SparqlAlgebra

namespace Double

/-- The total order of double-precision numbers. -/
def order (x y : Double) : Ordering := Binary.totalCompare x y

end Double

/-- The sort key of a literal. -/
inductive OrderKey where
  | number (value : Double)
  | truth (value : Bool)
  | text (value : String)
  | taggedText (value : String) (language : String)
  /-- Read as UTC if there is no offset. -/
  | moment (value : Moment)
  | other

namespace OrderKey

/-- The key of a value; numbers are compared in double precision. -/
def ofValue : LiteralValue → OrderKey
  | .number n => .number n.toDouble
  | .truth b => .truth b
  | .text s => .text s
  | .taggedText s l => .taggedText s l
  | .moment t => .moment t.toUtc
  | .unknown => .other

/-- The position of the group of a key. -/
def group : OrderKey → Nat
  | .number _ => 0
  | .truth _ => 1
  | .text _ => 2
  | .taggedText .. => 3
  | .moment _ => 4
  | .other => 5

/-- The order of two keys of one group. -/
def orderValues : OrderKey → OrderKey → Ordering
  | .number a, .number b => Double.order a b
  | .truth a, .truth b => compare a b
  | .text a, .text b => compareText a b
  | .taggedText a l, .taggedText b m => (compareText a b).then (compareText l m)
  | .moment a, .moment b => (a.compare? b).getD .eq
  | _, _ => .eq

end OrderKey

/-- The order of optional texts, absence first. -/
def compareOptionalText : Option String → Option String → Ordering
  | none, none => .eq
  | none, some _ => .lt
  | some _, none => .gt
  | some a, some b => compareText a b

namespace Literal

/-- The order of literals: by group, key, and then by what is written. -/
def order (a b : Literal) : Ordering :=
  let x := OrderKey.ofValue a.value
  let y := OrderKey.ofValue b.value
  (compare x.group y.group).then <|
    (x.orderValues y).then <|
      (compareText a.datatype.text b.datatype.text).then <|
        (compareText a.text b.text).then (compareOptionalText a.language? b.language?)

end Literal

namespace Term

/-- The order of two terms. -/
def order : Term → Term → Ordering
  | .blank a, .blank b => compareText a.label b.label
  | .blank _, _ => .lt
  | _, .blank _ => .gt
  | .iri a, .iri b => compareText a.text b.text
  | .iri _, _ => .lt
  | _, .iri _ => .gt
  | .literal a, .literal b => a.order b

/-- The order of optional terms. -/
def orderOptional : Option Term → Option Term → Ordering
  | none, none => .eq
  | none, some _ => .lt
  | some _, none => .gt
  | some a, some b => a.order b

/-- Sorts optional terms, keeping the order of those that are equal. -/
def sort (ts : List (Option Term)) : List (Option Term) :=
  ts.mergeSort fun a b => orderOptional a b != .gt

end Term

end SparqlAlgebra

import SparqlAlgebra.Rdf.Vocabulary

/-!
# Built-in functions

The names of the scalar functions that every query may call, how many arguments each takes, and which of
them may give another result for the same arguments. The casts are called by the IRI of their datatype.
-/

namespace SparqlAlgebra

/-- A scalar function. -/
inductive Builtin where
  | str | lang | datatype | iri | bnode | strDt | strLang
  | isIri | isBlank | isLiteral | isNumeric | uuid | strUuid
  | strLen | subStr | upperCase | lowerCase | strStarts | strEnds | contains | strBefore | strAfter
  | encodeForUri | concat | langMatches | regex | replace
  | abs | round | ceil | floor | rand
  | year | month | day | hours | minutes | seconds | timezone | tz | now
  | md5 | sha1 | sha256 | sha384 | sha512
  | toString | toBoolean | toInteger | toInt | toDecimal | toFloat | toDouble | toDateTime
  deriving DecidableEq, Inhabited

namespace Builtin

/-- The name under which errors mention the function. -/
def name : Builtin → String
  | .str => "STR"
  | .lang => "LANG"
  | .datatype => "DATATYPE"
  | .iri => "IRI"
  | .bnode => "BNODE"
  | .strDt => "STRDT"
  | .strLang => "STRLANG"
  | .isIri => "isIRI"
  | .isBlank => "isBLANK"
  | .isLiteral => "isLITERAL"
  | .isNumeric => "isNUMERIC"
  | .uuid => "UUID"
  | .strUuid => "STRUUID"
  | .strLen => "STRLEN"
  | .subStr => "SUBSTR"
  | .upperCase => "UCASE"
  | .lowerCase => "LCASE"
  | .strStarts => "STRSTARTS"
  | .strEnds => "STRENDS"
  | .contains => "CONTAINS"
  | .strBefore => "STRBEFORE"
  | .strAfter => "STRAFTER"
  | .encodeForUri => "ENCODE_FOR_URI"
  | .concat => "CONCAT"
  | .langMatches => "LANGMATCHES"
  | .regex => "REGEX"
  | .replace => "REPLACE"
  | .abs => "ABS"
  | .round => "ROUND"
  | .ceil => "CEIL"
  | .floor => "FLOOR"
  | .rand => "RAND"
  | .year => "YEAR"
  | .month => "MONTH"
  | .day => "DAY"
  | .hours => "HOURS"
  | .minutes => "MINUTES"
  | .seconds => "SECONDS"
  | .timezone => "TIMEZONE"
  | .tz => "TZ"
  | .now => "NOW"
  | .md5 => "MD5"
  | .sha1 => "SHA1"
  | .sha256 => "SHA256"
  | .sha384 => "SHA384"
  | .sha512 => "SHA512"
  | .toString => "xsd:string"
  | .toBoolean => "xsd:boolean"
  | .toInteger => "xsd:integer"
  | .toInt => "xsd:int"
  | .toDecimal => "xsd:decimal"
  | .toFloat => "xsd:float"
  | .toDouble => "xsd:double"
  | .toDateTime => "xsd:dateTime"

/-- All functions that are called by a keyword. -/
def keywords : List Builtin :=
  [.str, .lang, .datatype, .iri, .bnode, .strDt, .strLang, .isIri, .isBlank, .isLiteral, .isNumeric,
    .uuid, .strUuid, .strLen, .subStr, .upperCase, .lowerCase, .strStarts, .strEnds, .contains,
    .strBefore, .strAfter, .encodeForUri, .concat, .langMatches, .regex, .replace, .abs, .round, .ceil,
    .floor, .rand, .year, .month, .day, .hours, .minutes, .seconds, .timezone, .tz, .now, .md5, .sha1,
    .sha256, .sha384, .sha512]

/-- The cast to a datatype. -/
def ofCast? (i : Iri) : Option Builtin :=
  [(Xsd.string, .toString), (Xsd.boolean, .toBoolean), (Xsd.integer, .toInteger), (Xsd.int, .toInt),
    (Xsd.decimal, .toDecimal), (Xsd.float, .toFloat), (Xsd.double, .toDouble),
    (Xsd.dateTime, .toDateTime)].lookup i

/-- Whether the function can be called with `n` arguments. -/
def accepts (n : Nat) : Builtin → Bool
  | .rand | .now | .uuid | .strUuid => n == 0
  | .bnode => n ≤ 1
  | .concat => true
  | .strDt | .strLang | .strStarts | .strEnds | .contains | .strBefore | .strAfter | .langMatches =>
    n == 2
  | .subStr | .regex => n == 2 || n == 3
  | .replace => n == 3 || n == 4
  | _ => n == 1

/-- Whether the function may give another result for the same arguments. -/
def isVolatile : Builtin → Bool
  | .rand | .uuid | .strUuid | .bnode => true
  | _ => false

end Builtin

end SparqlAlgebra

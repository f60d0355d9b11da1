import SparqlAlgebra.Function.Builtin
import SparqlAlgebra.Function.Cast
import SparqlAlgebra.Function.Text
import SparqlAlgebra.Function.Time
import SparqlAlgebra.Rdf.Printer
import SparqlAlgebra.Text.IriGrammar
import SparqlAlgebra.Text.LanguageTag

/-!
# Calling built-in functions

The value of a function for given arguments. A function has no value for arguments of the wrong kind. Those
whose value is drawn anew by every evaluation are left out here.
-/

namespace SparqlAlgebra

namespace Term

/-- A truth value as a literal. -/
def ofBool (b : Bool) : Term := .literal (.ofBool b)

/-- An integer as a literal. -/
def ofInt (i : Int) : Term := .literal (.ofInt i)

/-- A plain string. -/
def string (s : String) : Term := .literal (.string s)

/-- A number as a literal of its type. -/
def ofNumeric (n : Numeric) : Term := .literal n.toLiteral

/-- The number that a term stands for, if it is a numeric literal. -/
def numeric? : Term → Option Numeric
  | .literal l => Numeric.ofLiteral? l
  | _ => none

/-- The text of a plain string. -/
def plainText? : Term → Option String
  | .literal l => l.plainText?
  | _ => none

end Term

namespace Builtin

/-- The text of an IRI or literal. -/
def strOf? : Term → Option String
  | .iri i => some i.text
  | .literal l => some l.text
  | .blank _ => none

/-- The IRI that a term is or that a plain string spells in full. -/
def iriOf? : Term → Option Iri
  | .iri i => some i
  | t => t.plainText?.bind Iri.ofText?

/-- A literal of a given datatype. -/
def typed? : Term → Term → Option Literal
  | t, .iri d => t.plainText?.map fun s => .typed s d
  | _, _ => none

/-- A literal in a given language, whose tag is written in lower case. -/
def tagged? (text tag : Term) : Option Literal := do
  let s ← text.plainText?
  let l ← tag.plainText?
  let l ← LanguageTag.normalize? l
  return .tagged s l

/-- A function of one text. -/
def onText (f : LocalText → Term) (t : Term) : Option Term := (LocalText.ofTerm? t).map f

/-- A function of two compatible texts. -/
def onTexts (f : LocalText → LocalText → Term) (s t : Term) : Option Term := do
  let a ← LocalText.ofTerm? s
  let b ← LocalText.ofTerm? t
  if a.isCompatible b then some (f a b) else none

/-- A function of two plain strings. -/
def onPlain (f : String → String → Term) (s t : Term) : Option Term := do
  let a ← s.plainText?
  let b ← t.plainText?
  return f a b

/-- A part of a text. -/
def substring (t start : Term) (length : Option Term) : Option Term := do
  let t ← LocalText.ofTerm? t
  let start ← start.numeric?
  match length with
  | none => some (t.window start.toDouble none).toTerm
  | some n => n.numeric?.map fun n => (t.window start.toDouble (some n.toDouble)).toTerm

/-- The regular expression of a pattern with flags. -/
def expression? (pattern : Term) (flags : Option Term) : Option Regex.Program := do
  let p ← pattern.plainText?
  match flags with
  | none => Regex.compile? p ""
  | some f => f.plainText?.bind (Regex.compile? p)

/-- Whether a text matches a regular expression under some flags. -/
def matches? (t pattern : Term) (flags : Option Term) : Option Term := do
  let t ← LocalText.ofTerm? t
  let r ← expression? pattern flags
  return .ofBool (r.isMatch t.value)

/-- A text in which every match of a regular expression is replaced. -/
def replace? (t pattern replacement : Term) (flags : Option Term) : Option Term := do
  let t ← LocalText.ofTerm? t
  let r ← expression? pattern flags
  let s ← replacement.plainText?
  return (t.withValue (r.replaceAll t.value s)).toTerm

/-- An operation on the number that a term stands for. -/
def onNumeric (f : Numeric → Option Numeric) (t : Term) : Option Term :=
  (t.numeric?.bind f).map .ofNumeric

/-- An operation on the numbers that two terms stand for. -/
def onNumerics (f : Numeric → Numeric → Option Numeric) (s t : Term) : Option Term := do
  let a ← s.numeric?
  let b ← t.numeric?
  (f a b).map .ofNumeric

/-- A field of a date. -/
def dateField (f : Moment → Int) (t : Term) : Option Term :=
  (Temporal.ofTerm? t).map fun x => .ofInt (f x.moment)

/-- A field of a time of day. -/
def timeField (f : Moment → Term) (t : Term) : Option Term :=
  ((Temporal.ofTerm? t).bind Temporal.timed?).map f

/-- The offset of a moment as a duration, if it has one. -/
def timezone? (t : Term) : Option Term := do
  let x ← Temporal.ofTerm? t
  let offset ← x.moment.offset
  return .literal (.typed (Moment.durationText offset) Xsd.dayTimeDuration)

/-- The offset of a moment as it is written, and the empty text if it has none. -/
def tz? (t : Term) : Option Term := do
  let _ ← Temporal.ofTerm? t
  let s ← strOf? t
  return .string (Moment.offsetSuffix s)

/-- The digest of a plain text in hexadecimal digits. -/
def digest? (f : List UInt8 → List UInt8) (t : Term) : Option Term :=
  t.plainText?.map fun s => .string (Text.hexDigest f s)

/-- A cast that yields a text in a datatype. -/
def cast {α : Type} (read : CastSource → Option α) (write : α → Literal) (t : Term) : Option Term :=
  ((CastSource.ofTerm? t).bind read).map fun x => .literal (write x)

/-- The value of a function for its arguments. -/
def call : Builtin → List Term → Option Term
  | .str, [t] => (strOf? t).map .string
  | .lang, [.literal l] => some (.string (l.language?.getD ""))
  | .datatype, [.literal l] => some (.iri l.datatype)
  | .iri, [t] => (iriOf? t).map .iri
  | .bnode, [t] => t.plainText?.map fun s => .blank ⟨Text.toLabel s⟩
  | .strDt, [t, d] => (typed? t d).map .literal
  | .strLang, [t, l] => (tagged? t l).map .literal
  | .isIri, [t] => some (.ofBool t.isIri)
  | .isBlank, [t] => some (.ofBool t.isBlank)
  | .isLiteral, [t] => some (.ofBool t.isLiteral)
  | .isNumeric, [t] => some (.ofBool t.numeric?.isSome)
  | .strLen, [t] => onText (fun a => .ofInt a.length) t
  | .subStr, [t, start] => substring t start none
  | .subStr, [t, start, n] => substring t start (some n)
  | .upperCase, [t] => onText (fun a => a.toUpper.toTerm) t
  | .lowerCase, [t] => onText (fun a => a.toLower.toTerm) t
  | .strStarts, [s, t] => onTexts (fun a b => .ofBool (a.startsWith b)) s t
  | .strEnds, [s, t] => onTexts (fun a b => .ofBool (a.endsWith b)) s t
  | .contains, [s, t] => onTexts (fun a b => .ofBool (a.contains b)) s t
  | .strBefore, [s, t] => onTexts (fun a b => (a.before b).toTerm) s t
  | .strAfter, [s, t] => onTexts (fun a b => (a.after b).toTerm) s t
  | .encodeForUri, [t] => onText (fun a => .string (Percent.encode a.value)) t
  | .concat, ts => (ts.mapM LocalText.ofTerm?).map fun xs => (LocalText.concat xs).toTerm
  | .langMatches, [tag, range] => onPlain (fun a b => .ofBool (Text.tagInRange a b)) tag range
  | .regex, [t, p] => matches? t p none
  | .regex, [t, p, f] => matches? t p (some f)
  | .replace, [t, p, r] => replace? t p r none
  | .replace, [t, p, r, f] => replace? t p r (some f)
  | .abs, [t] => onNumeric Numeric.abs? t
  | .round, [t] => onNumeric Numeric.round? t
  | .ceil, [t] => onNumeric Numeric.ceil? t
  | .floor, [t] => onNumeric Numeric.floor? t
  | .year, [t] => dateField Moment.year t
  | .month, [t] => dateField (fun x => x.month) t
  | .day, [t] => dateField (fun x => x.day) t
  | .hours, [t] => timeField (fun x => .ofInt x.hour) t
  | .minutes, [t] => timeField (fun x => .ofInt x.minute) t
  | .seconds, [t] => timeField (fun x => .literal (.typed x.second.toText Xsd.decimal)) t
  | .timezone, [t] => timezone? t
  | .tz, [t] => tz? t
  | .md5, [t] => digest? Digest.md5 t
  | .sha1, [t] => digest? Digest.sha1 t
  | .sha256, [t] => digest? Digest.sha256 t
  | .sha384, [t] => digest? Digest.sha384 t
  | .sha512, [t] => digest? Digest.sha512 t
  | .toString, [t] => (Cast.string? t).map .literal
  | .toBoolean, [t] => cast Cast.boolean? .ofBool t
  | .toInteger, [t] => cast Cast.integer? .ofInt t
  | .toInt, [t] => cast Cast.int? (fun i => .typed (ToString.toString i) Xsd.int) t
  | .toDecimal, [t] => cast Cast.decimal? (fun d => .typed d.toText Xsd.decimal) t
  | .toFloat, [t] => cast Cast.single? (fun x => (Numeric.single x).toLiteral) t
  | .toDouble, [t] => cast Cast.double? (fun x => (Numeric.double x).toLiteral) t
  | .toDateTime, [t] => cast Cast.moment? (fun x => .typed x.toText Xsd.dateTime) t
  | _, _ => none

end Builtin

end SparqlAlgebra

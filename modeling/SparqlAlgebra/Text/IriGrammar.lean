import SparqlAlgebra.Rdf.Term

/-!
# The grammar of absolute IRIs

A scheme, an optional authority after two slashes, a path, and optionally a query and a fragment. Each part
allows its own set of characters besides percent escapes.
-/

namespace SparqlAlgebra

namespace IriGrammar

/-- Whether a character is a hexadecimal digit. -/
def isHexDigit (c : Char) : Bool :=
  c.isDigit || ('a' ≤ c && c ≤ 'f') || ('A' ≤ c && c ≤ 'F')

/-- Whether a code point beyond ASCII is allowed everywhere. -/
def isExtended (n : Nat) : Bool :=
  (0xA0 ≤ n && n ≤ 0xD7FF) || (0xF900 ≤ n && n ≤ 0xFDCF) || (0xFDF0 ≤ n && n ≤ 0xFFEF) ||
    (0x10000 ≤ n && n ≤ 0xDFFFD && n % 0x10000 ≤ 0xFFFD) || (0xE1000 ≤ n && n ≤ 0xEFFFD)

/-- Whether a code point is for private use. These are allowed in a query. -/
def isPrivateUse (n : Nat) : Bool :=
  (0xE000 ≤ n && n ≤ 0xF8FF) || (0xF0000 ≤ n && n ≤ 0xFFFFD) || (0x100000 ≤ n && n ≤ 0x10FFFD)

/-- Unreserved characters and the separators within a part. -/
def isPlain (c : Char) : Bool :=
  c.isAlphanum || "!$&'()*+,-.;=_~".toList.contains c || isExtended c.toNat

/-- Whether a character is allowed in a path. -/
def isPathChar (c : Char) : Bool := isPlain c || c == ':' || c == '@' || c == '/'

/-- Whether a character is allowed in a fragment. -/
def isFragmentChar (c : Char) : Bool := isPathChar c || c == '?'

/-- Whether a character is allowed in a query. -/
def isQueryChar (c : Char) : Bool := isFragmentChar c || isPrivateUse c.toNat

/-- Whether all characters are allowed or belong to a percent escape. -/
def allAllowed (allowed : Char → Bool) : List Char → Bool
  | [] => true
  | '%' :: a :: b :: r => isHexDigit a && isHexDigit b && allAllowed allowed r
  | c :: r => c != '%' && allowed c && allAllowed allowed r

/-- Splits before the first character that satisfies `stop`. -/
def before (stop : Char → Bool) (cs : List Char) : List Char × List Char :=
  (cs.takeWhile (!stop ·), cs.dropWhile (!stop ·))

/-- Splits a text at each occurrence of a character. -/
def splitOn (sep : Char) : List Char → List (List Char)
  | [] => [[]]
  | c :: r =>
    if c = sep then [] :: splitOn sep r
    else
      match splitOn sep r with
      | [] => [[c]]
      | w :: ws => (c :: w) :: ws

/-- Four decimal numbers below 256, without leading zeros. -/
def isIpv4 (cs : List Char) : Bool :=
  let parts := splitOn '.' cs
  parts.length == 4 && parts.all fun p =>
    !p.isEmpty && p.length ≤ 3 && p.all Char.isDigit && (p.length == 1 || p.head? != some '0') &&
      (p.foldl (fun n c => 10 * n + (c.toNat - 48)) 0 < 256)

/-- How many groups of sixteen bits a run of parts between colons fills, if all are well formed. Only
the last part of an address may be in the four-number form, which fills two groups. -/
def groupCount (mayEndV4 : Bool) : List (List Char) → Option Nat
  | [] => some 0
  | [p] =>
    if !p.isEmpty && p.length ≤ 4 && p.all isHexDigit then some 1
    else if mayEndV4 && isIpv4 p then some 2 else none
  | p :: ps =>
    if !p.isEmpty && p.length ≤ 4 && p.all isHexDigit then (groupCount mayEndV4 ps).map (· + 1) else none

/-- The parts between the colons of a run of groups, which may be empty. -/
def groupParts (cs : List Char) : List (List Char) := if cs.isEmpty then [] else splitOn ':' cs

/-- Splits at the first pair of colons. -/
def splitDoubleColon : List Char → Option (List Char × List Char)
  | ':' :: ':' :: r => some ([], r)
  | c :: r => (splitDoubleColon r).map fun (a, b) => (c :: a, b)
  | [] => none

/-- Eight groups, or fewer with one pair of colons for the missing ones. -/
def isIpv6 (cs : List Char) : Bool :=
  match splitDoubleColon cs with
  | none => groupCount true (groupParts cs) == some 8
  | some (a, b) =>
    match groupCount false (groupParts a), groupCount true (groupParts b) with
    | some m, some n => m + n ≤ 7
    | _, _ => false

/-- A version, a point and plain characters of ASCII or colons. -/
def isFutureAddress (cs : List Char) : Bool :=
  match cs with
  | v :: r =>
    let (version, r) := before (· == '.') r
    (v == 'v' || v == 'V') && !version.isEmpty && version.all isHexDigit &&
      (match r with
        | _ :: address => !address.isEmpty && address.all fun c => c.toNat < 0x80 && (isPlain c || c == ':')
        | [] => false)
  | [] => false

/-- A host with an optional port. -/
def isHostPort (cs : List Char) : Bool :=
  let portOk (r : List Char) : Bool :=
    match r with
    | [] => true
    | c :: ds => c == ':' && ds.all Char.isDigit
  match cs with
  | '[' :: r =>
    let (address, r) := before (· == ']') r
    match r with
    | _ :: port => (isFutureAddress address || isIpv6 address) && portOk port
    | [] => false
  | _ =>
    let (host, port) := before (· == ':') cs
    allAllowed isPlain host && portOk port

/-- Optional user information before an at sign, then the host. -/
def isAuthority (cs : List Char) : Bool :=
  let (user, r) := before (fun c => c == '@' || c == '[') cs
  match r with
  | '@' :: host => allAllowed (fun c => isPlain c || c == ':') user && isHostPort host
  | _ => isHostPort cs

/-- What may follow the authority or stand in place of it: path, query and fragment. -/
def isTail (cs : List Char) : Bool :=
  let (path, r) := before (fun c => c == '?' || c == '#') cs
  let queryAndFragment :=
    match r with
    | '?' :: r =>
      let (query, r) := before (· == '#') r
      allAllowed isQueryChar query && allAllowed isFragmentChar (r.drop 1)
    | r => allAllowed isFragmentChar (r.drop 1)
  allAllowed isPathChar path && queryAndFragment

/-- Whether a text is an absolute IRI. -/
def isAbsolute (s : String) : Bool :=
  let (scheme, r) := before (· == ':') s.toList
  let schemeOk := match scheme with
    | c :: cs => c.isAlpha && cs.all fun c => c.isAlphanum || c == '+' || c == '-' || c == '.'
    | [] => false
  schemeOk && match r with
    | _ :: '/' :: '/' :: r =>
      let (authority, tail) := before (fun c => c == '/' || c == '?' || c == '#') r
      isAuthority authority && isTail tail
    | _ :: r => isTail r
    | [] => false

end IriGrammar

namespace Iri

/-- The IRI of a text, if that is an absolute IRI. -/
def ofText? (s : String) : Option Iri := if IriGrammar.isAbsolute s then some ⟨s⟩ else none

end Iri

end SparqlAlgebra

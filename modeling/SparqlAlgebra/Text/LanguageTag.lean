import SparqlAlgebra.Text.IriGrammar

/-!
# The grammar of language tags

A language, then optionally extended languages, a script, a region, variants, extensions and parts for
private use, in this order and joined by hyphens. A few older tags are allowed as a whole.
-/

namespace SparqlAlgebra

namespace LanguageTag

/-- Tags that are allowed although they do not follow the grammar. -/
def grandfathered : List String :=
  ["art-lojban", "cel-gaulish", "en-gb-oed", "i-ami", "i-bnn", "i-default", "i-enochian", "i-hak",
    "i-klingon", "i-lux", "i-mingo", "i-navajo", "i-pwn", "i-tao", "i-tay", "i-tsu", "no-bok", "no-nyn",
    "sgn-be-fr", "sgn-be-nl", "sgn-ch-de", "zh-guoyu", "zh-hakka", "zh-min", "zh-min-nan", "zh-xiang"]

/-- Which parts may still follow. -/
inductive Stage where
  | start
  /-- After a language, with the number of extended languages so far. -/
  | language (extended : Nat)
  /-- After a long language, which has no extended ones. -/
  | longLanguage
  | script
  | region
  /-- In an extension; `fresh` until it has its first part. -/
  | extension (fresh : Bool)
  /-- In the part for private use; `fresh` until it has its first part. -/
  | privateUse (fresh : Bool)
  deriving DecidableEq

/-- What the next part, in lower case, leads to. -/
def step (s : Stage) (p : List Char) : Option Stage :=
  let alpha := p.all Char.isAlpha
  let alphanumeric := p.all Char.isAlphanum
  let beforeScript := match s with
    | .language _ => true
    | .longLanguage => true
    | _ => false
  let beforeRegion := beforeScript || s == .script
  let beforeVariant := beforeRegion || s == .region
  let first := p.headD '-'
  if p.isEmpty || p.length > 8 then none
  else
    match s with
    | .start =>
      if p.length < 2 || !alpha then none
      else some (if p.length < 4 then .language 0 else .longLanguage)
    | .privateUse _ => if alphanumeric then some (.privateUse false) else none
    | s =>
      if p = ['x'] then (if s = .extension true then none else some (.privateUse true))
      else if p.length = 1 ∧ alphanumeric then
        (if s = .extension true then none else some (.extension true))
      else
        match s with
        | .extension _ => if alphanumeric then some (.extension false) else none
        | .language n =>
          if p.length = 3 ∧ alpha then (if n < 3 then some (.language (n + 1)) else none)
          else other alpha alphanumeric first beforeScript beforeRegion beforeVariant
        | _ => other alpha alphanumeric first beforeScript beforeRegion beforeVariant
where
  /-- A script, a region or a variant. -/
  other (alpha alphanumeric : Bool) (first : Char) (beforeScript beforeRegion beforeVariant : Bool) :
      Option Stage :=
    if beforeScript ∧ p.length = 4 ∧ alpha then some .script
    else if beforeRegion ∧ ((p.length = 2 ∧ alpha) ∨ (p.length = 3 ∧ p.all Char.isDigit)) then some .region
    else if beforeVariant ∧ alphanumeric ∧
        ((p.length ≥ 5 ∧ first.isAlpha) ∨ (p.length ≥ 4 ∧ first.isDigit)) then some .region
    else none

/-- Whether a tag may end here. -/
def isFinal : Stage → Bool
  | .start => false
  | .extension fresh => !fresh
  | .privateUse fresh => !fresh
  | _ => true

/-- Whether a text is a language tag. -/
def isValid (s : String) : Bool :=
  let cs := s.toList.map Char.toLower
  grandfathered.contains (String.ofList cs) ||
    (match cs with
      | 'x' :: '-' :: r =>
        (IriGrammar.splitOn '-' r).all fun p => !p.isEmpty && p.length ≤ 8 && p.all Char.isAlphanum
      | _ => (((IriGrammar.splitOn '-' cs).foldlM step .start).map isFinal).getD false)

/-- The lower-case tag, if the text is a language tag. -/
def normalize? (s : String) : Option String :=
  if isValid s then some (String.ofList (s.toList.map Char.toLower)) else none

end LanguageTag

end SparqlAlgebra

/-!
# Language tags

A language tag is a list of subtags with minus signs between them: a language, then perhaps
extensions of the language, a script, a region, variants, extensions with a letter or digit of their
own, and private subtags after an `x`. Some old tags are admitted as a whole.
-/

namespace QuadWalk.LanguageTag

/-- The old tags that are admitted as a whole, in small letters. -/
def grandfathered : List String :=
  ["art-lojban", "cel-gaulish", "en-gb-oed", "i-ami", "i-bnn", "i-default", "i-enochian", "i-hak",
    "i-klingon", "i-lux", "i-mingo", "i-navajo", "i-pwn", "i-tao", "i-tay", "i-tsu", "no-bok",
    "no-nyn", "sgn-be-fr", "sgn-be-nl", "sgn-ch-de", "zh-guoyu", "zh-hakka", "zh-min", "zh-min-nan",
    "zh-xiang"]

/-- What has been read last. -/
inductive Part where
  /-- A short language with some extensions of the language, of which there are at most three. -/
  | language (extensions : Nat)
  /-- A long language, after which there are none. -/
  | longLanguage
  | script
  /-- A region or a variant. -/
  | region
  /-- The letter of an extension, after which there has to be more. -/
  | extensionLetter
  | extension
  /-- The `x` before private subtags, after which there has to be more. -/
  | privateMark
  | privateUse
  deriving DecidableEq

/-- The parts of a text between minus signs. -/
def subtags : List Char → List (List Char)
  | [] => [[]]
  | '-' :: cs => [] :: subtags cs
  | c :: cs =>
    match subtags cs with
    | [] => [[c]]
    | part :: parts => (c :: part) :: parts

/-- What a subtag is after what was read last. -/
def next? (last : Part) (subtag : List Char) : Option Part :=
  let n := subtag.length
  let letters := subtag.all Char.isAlpha
  let early : Bool := match last with
    | .language _ => true
    | .longLanguage => true
    | _ => false
  if n = 0 ∨ 8 < n ∨ !subtag.all Char.isAlphanum then none
  else if last = .privateUse ∨ last = .privateMark then some .privateUse
  else if n = 1 then
    if last = .extensionLetter then none
    else if subtag.map Char.toLower = ['x'] then some .privateMark
    else some .extensionLetter
  else if last = .extension ∨ last = .extensionLetter then some .extension
  else
    match last, n == 3 && letters with
    | .language extensions, true =>
      if extensions < 3 then some (.language (extensions + 1)) else none
    | _, _ =>
      if early && n = 4 && letters then some .script
      else if (early || last = .script) &&
          ((n = 2 && letters) || (n = 3 && subtag.all Char.isDigit)) then some .region
      else if 5 ≤ n ∨ (n = 4 ∧ (subtag.head?.any Char.isDigit) = true) then some .region
      else none

/-- Reads the subtags after the language. -/
def follow? (last : Part) : List (List Char) → Option Part
  | [] => some last
  | subtag :: rest => (next? last subtag).bind fun part => follow? part rest

/-- Whether a text is a language with what may follow it. -/
def isLanguage (cs : List Char) : Bool :=
  match subtags cs with
  | first :: rest =>
    let start : Part := if first.length < 4 then .language 0 else .longLanguage
    2 ≤ first.length && first.length ≤ 8 && first.all Char.isAlpha &&
      match follow? start rest with
      | none => false
      | some last => last ≠ .extensionLetter && last ≠ .privateMark
  | [] => false

/-- Whether a text may be a private subtag: one to eight letters and digits. -/
def isPrivateSubtag (subtag : List Char) : Bool :=
  1 ≤ subtag.length && subtag.length ≤ 8 && subtag.all Char.isAlphanum

/-- Whether a text is a language tag. A tag that is private as a whole has only private subtags
after its `x`. -/
def isWellFormed (cs : List Char) : Bool :=
  let small := cs.map Char.toLower
  grandfathered.contains (String.ofList small) ||
    match small with
    | 'x' :: '-' :: rest => (subtags rest).all isPrivateSubtag
    | _ => isLanguage cs

end QuadWalk.LanguageTag

import RecordQuery.Unicode.Age
import RecordQuery.Unicode.ScriptExtension
import RecordQuery.Unicode.SentenceBreak

/-!
# Properties of characters by name

A pattern refers to a class of characters by the name of a property or by a property and a value,
as in `\p{Greek}` and `\p{Script=Greek}`.  Case, blanks, hyphens and underscores in these names
do not matter, nor does a leading `is`.

* `looseName` — a name without what does not matter.
* `PropertyQuery.ofText` — splits a name from a value.
* `PropertyQuery.members?` — the characters of the class, if there is such a class.
-/

namespace RecordQuery.Pattern

/-- The letters of a name that matter: ASCII characters in lower case, without blanks, hyphens and
underscores. -/
def looseLetters (name : List Char) : List Char :=
  (name.filter fun c => c.toNat < 128 && c ≠ ' ' && c ≠ '_' && c ≠ '-').map Char.toLower

/-- A name without what does not matter, a leading `is` included.  The one name that would be cut
down to a single letter by that, `isc`, is kept. -/
def looseName : List Char → String
  | i :: s :: rest =>
    if (i = 'i' ∨ i = 'I') ∧ (s = 's' ∨ s = 'S') then
      let letters := looseLetters rest
      if letters = ['c'] then "isc" else String.ofList letters
    else String.ofList (looseLetters (i :: s :: rest))
  | name => String.ofList (looseLetters name)

/-- A reference to a class of characters. -/
inductive PropertyQuery
  /-- a name alone: of a binary property, a general category or a script -/
  | single (name : String)
  /-- a property with a value -/
  | pair (property value : String)
  deriving DecidableEq, Repr

/-- The parts of a text before and behind the first occurrence of a mark. -/
def splitAt? (mark : List Char) : List Char → Option (List Char × List Char)
  | [] => none
  | c :: rest =>
    if mark.isPrefixOf (c :: rest) then some ([], (c :: rest).drop mark.length)
    else (splitAt? mark rest).map fun (before, behind) => (c :: before, behind)

namespace PropertyQuery

/-- The reference that stands between braces, and whether its complement is meant.  A property is
separated from its value by `!=`, which means the complement, by a colon or by an equality sign,
looked for in this order. -/
def ofText (text : List Char) : PropertyQuery × Bool :=
  let separators := [(['!', '='], true), ([':'], false), (['='], false)]
  let found := separators.findSome? fun (mark, complement) =>
    (splitAt? mark text).map fun parts => (parts, complement)
  match found with
  | some ((property, value), complement) =>
    (pair (looseName property) (looseName value), complement)
  | none => (single (looseName text), false)

/-- **The characters of the class**, if there is such a class.  A name alone is that of a binary
property, of a general category or of a script. -/
def members? : PropertyQuery → Option CodeRanges
  | single name =>
    (Unicode.NamedSet.find? Unicode.binaryProperties name).or <|
      (Unicode.NamedSet.find? Unicode.generalCategories name).or <|
        Unicode.NamedSet.find? Unicode.scripts name
  | pair property value =>
    if property ∈ ["gc", "generalcategory"] then
      Unicode.NamedSet.find? Unicode.generalCategories value
    else if property ∈ ["sc", "script"] then Unicode.NamedSet.find? Unicode.scripts value
    else if property ∈ ["scx", "scriptextensions"] then
      Unicode.NamedSet.find? Unicode.scriptExtensions value
    else if property = "age" then Unicode.edition? value
    else if property ∈ ["gcb", "graphemeclusterbreak"] then
      Unicode.NamedSet.find? Unicode.graphemeBreaks value
    else if property ∈ ["wb", "wordbreak"] then Unicode.NamedSet.find? Unicode.wordBreaks value
    else if property ∈ ["sb", "sentencebreak"] then
      Unicode.NamedSet.find? Unicode.sentenceBreaks value
    else none

end PropertyQuery

end RecordQuery.Pattern

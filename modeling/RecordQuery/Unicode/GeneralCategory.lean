import RecordQuery.Text.CodeRanges.Combination
import RecordQuery.Unicode.Letter
import RecordQuery.Unicode.Mark
import RecordQuery.Unicode.NamedSet
import RecordQuery.Unicode.Numeral
import RecordQuery.Unicode.Punctuation
import RecordQuery.Unicode.Separator
import RecordQuery.Unicode.Symbol

/-!
# General categories

Every character belongs to one general category.  The categories form groups, and whatever
belongs to none of those listed is unassigned.

* `generalCategories` — categories and groups by name.
-/

namespace RecordQuery.Unicode

/-- Letters that have a case. -/
def casedLetter : CodeRanges := .unionOf [uppercaseLetter, lowercaseLetter, titlecaseLetter]

/-- Letters. -/
def letter : CodeRanges := .unionOf [casedLetter, modifierLetter, otherLetter]

/-- Marks. -/
def mark : CodeRanges := .unionOf [nonspacingMark, spacingMark, enclosingMark]

/-- Numerals. -/
def number : CodeRanges := .unionOf [decimalNumber, letterNumber, otherNumber]

/-- Punctuation. -/
def punctuation : CodeRanges :=
  .unionOf [connectorPunctuation, dashPunctuation, openPunctuation, closePunctuation,
    initialPunctuation, finalPunctuation, otherPunctuation]

/-- Symbols. -/
def symbol : CodeRanges := .unionOf [mathSymbol, currencySymbol, modifierSymbol, otherSymbol]

/-- Separators. -/
def separator : CodeRanges := .unionOf [spaceSeparator, lineSeparator, paragraphSeparator]

/-- Characters with a glyph or at least a width. -/
def visible : CodeRanges := .unionOf [letter, mark, number, punctuation, symbol, separator]

/-- Characters to which a meaning is assigned, be it by private agreement. -/
def assigned : CodeRanges := .unionOf [visible, control, format, privateUse]

/-- Characters without a meaning. -/
def unassigned : CodeRanges := assigned.complement

/-- Controls, format characters, private use and unassigned characters. -/
def other : CodeRanges := visible.complement

/-- All characters. -/
def any : CodeRanges := CodeRanges.complement []

/-- The characters of ASCII. -/
def ascii : CodeRanges := [(0x0, 0x7f)]

/-- Categories and groups of categories, by name. -/
def generalCategories : List NamedSet :=
  [⟨["letter", "l"], letter⟩,
    ⟨["casedletter", "lc"], casedLetter⟩,
    ⟨["uppercaseletter", "lu"], uppercaseLetter⟩,
    ⟨["lowercaseletter", "ll"], lowercaseLetter⟩,
    ⟨["titlecaseletter", "lt"], titlecaseLetter⟩,
    ⟨["modifierletter", "lm"], modifierLetter⟩,
    ⟨["otherletter", "lo"], otherLetter⟩,
    ⟨["combiningmark", "mark", "m"], mark⟩,
    ⟨["nonspacingmark", "mn"], nonspacingMark⟩,
    ⟨["spacingmark", "mc"], spacingMark⟩,
    ⟨["enclosingmark", "me"], enclosingMark⟩,
    ⟨["number", "n"], number⟩,
    ⟨["decimalnumber", "digit", "nd"], decimalNumber⟩,
    ⟨["letternumber", "nl"], letterNumber⟩,
    ⟨["othernumber", "no"], otherNumber⟩,
    ⟨["punctuation", "punct", "p"], punctuation⟩,
    ⟨["connectorpunctuation", "pc"], connectorPunctuation⟩,
    ⟨["dashpunctuation", "pd"], dashPunctuation⟩,
    ⟨["openpunctuation", "ps"], openPunctuation⟩,
    ⟨["closepunctuation", "pe"], closePunctuation⟩,
    ⟨["initialpunctuation", "pi"], initialPunctuation⟩,
    ⟨["finalpunctuation", "pf"], finalPunctuation⟩,
    ⟨["otherpunctuation", "po"], otherPunctuation⟩,
    ⟨["symbol", "s"], symbol⟩,
    ⟨["mathsymbol", "sm"], mathSymbol⟩,
    ⟨["currencysymbol", "sc"], currencySymbol⟩,
    ⟨["modifiersymbol", "sk"], modifierSymbol⟩,
    ⟨["othersymbol", "so"], otherSymbol⟩,
    ⟨["separator", "z"], separator⟩,
    ⟨["spaceseparator", "zs"], spaceSeparator⟩,
    ⟨["lineseparator", "zl"], lineSeparator⟩,
    ⟨["paragraphseparator", "zp"], paragraphSeparator⟩,
    ⟨["other", "c"], other⟩,
    ⟨["control", "cntrl", "cc"], control⟩,
    ⟨["format", "cf"], format⟩,
    ⟨["privateuse", "co"], privateUse⟩,
    ⟨["unassigned", "cn"], unassigned⟩,
    ⟨["assigned"], assigned⟩,
    ⟨["any"], any⟩,
    ⟨["ascii"], ascii⟩]

end RecordQuery.Unicode

import RecordQuery.Pattern.Assertion
import RecordQuery.Pattern.CharClass
import RecordQuery.Pattern.Scan

/-!
# Escapes and single characters

What a pattern says without brackets, parentheses and repetitions: characters, written as they are
or escaped, the point, anchors and named classes.

A backslash before an ASCII character that is neither a letter nor a digit takes away any meaning
that it has; `\<` and `\>` alone stand for word boundaries.  Before a letter it must be one of the
escapes with a meaning, and before a digit it is never allowed, for there are no back references.

* `Primitive` — what is read.
* `readEscape` — reads what follows a backslash.
* `Primitive.isText` — when characters are bytes, some primitives would match what is no text.
-/

namespace RecordQuery.Pattern

/-- A part of a pattern without parts of its own. -/
inductive Primitive
  /-- a character; `asByte` says that it is written as `\x` with two digits and so may stand for a
  byte -/
  | literal (c : Char) (asByte : Bool)
  /-- the point -/
  | any
  /-- an anchor or a word boundary -/
  | assertion (a : Assertion)
  /-- a class that is referred to by an escape -/
  | named (c : NamedClass)

/-- Whether the primitive matches nothing but text, and names nothing unknown.  When characters are
bytes, the point would match half a character, and so would a byte beyond ASCII. -/
def Primitive.isText (unicode : Bool) : Primitive → Bool
  | literal c asByte => unicode || !asByte || c.toNat < 128
  | any => unicode
  | assertion _ => true
  | named c => c.isText unicode

/-- Whether an escaped character stands for itself. -/
def isPunctuation (c : Char) : Bool :=
  c.toNat < 128 && !c.isAlphanum && c ≠ '<' && c ≠ '>'

/-- The code of a character behind `\x`, `\u` or `\U`: a fixed number of hexadecimal digits, or any
number of them in braces. -/
def readCode (verbose : Bool) (digits : Nat) (s : List Char) : Option (Primitive × List Char) :=
  match skip verbose s with
  | '\x7b' :: rest => do
    let (code, behind) ← readBraced verbose rest
    if !code.all isHexDigit then none
    else return (.literal (← charOfHex code) false, behind)
  | rest => do
    let (code, behind) ← readHexDigits verbose digits rest
    return (.literal (← charOfHex code) (digits = 2), behind)

/-- The property behind `\p` or `\P`: one letter, or a reference in braces. -/
def readProperty (verbose negated : Bool) (s : List Char) : Option (Primitive × List Char) :=
  match skip verbose s with
  | [] => none
  | '\x7b' :: rest => do
    let (text, behind) ← readBraced verbose rest
    let (query, complement) := PropertyQuery.ofText text
    return (.named (.property query (negated != complement)), behind)
  | '\\' :: _ => none
  | c :: rest => some (.named (.property (.single (looseName [c])) negated), rest)

/-- The kinds of word boundary that are named in braces. -/
def boundaryNames : List (String × WordBoundary) :=
  [("start", .full .first), ("end", .full .last), ("start-half", .half .first),
    ("end-half", .half .last)]

/-- What follows `\b`.  An opening brace with a letter or a hyphen behind it begins the name of a
kind of boundary; otherwise it begins a repetition count and is left alone. -/
def readBoundary (verbose : Bool) (s : List Char) : Option (Primitive × List Char) :=
  let isNameChar (c : Char) : Bool := c.isAlpha || c = '-'
  let either : Primitive := .assertion (.word .either)
  match s with
  | '\x7b' :: rest =>
    match skip verbose rest with
    | [] => none
    | c :: _ =>
      if !isNameChar c then some (either, s)
      else do
        let (name, behind) := takeChars verbose isNameChar false rest
        let boundary ← boundaryNames.lookup (String.ofList name)
        return (.assertion (.word boundary), ← after '\x7d' behind)
  | _ => some (either, s)

/-- **Reads what follows a backslash.** -/
def readEscape (verbose : Bool) : List Char → Option (Primitive × List Char)
  | [] => none
  | c :: rest =>
    let char (c : Char) := some (.literal c false, rest)
    let shorthand (kind : Shorthand) (negated : Bool) :=
      some (.named (.shorthand kind negated), rest)
    let assertion (a : Assertion) := some (.assertion a, rest)
    match c with
    | 'x' => readCode verbose 2 rest
    | 'u' => readCode verbose 4 rest
    | 'U' => readCode verbose 8 rest
    | 'p' => readProperty verbose false rest
    | 'P' => readProperty verbose true rest
    | 'd' => shorthand .digit false
    | 'D' => shorthand .digit true
    | 's' => shorthand .space false
    | 'S' => shorthand .space true
    | 'w' => shorthand .word false
    | 'W' => shorthand .word true
    | 'a' => char '\x07'
    | 'f' => char '\x0c'
    | 't' => char '\t'
    | 'n' => char '\n'
    | 'r' => char '\r'
    | 'v' => char '\x0b'
    | 'A' => assertion (.text .first)
    | 'z' => assertion (.text .last)
    | 'B' => assertion (.word .neither)
    | '<' => assertion (.word (.full .first))
    | '>' => assertion (.word (.full .last))
    | 'b' => readBoundary verbose rest
    | c => if isPunctuation c then char c else none

/-- Reads one primitive.  Every character that has no meaning stands for itself. -/
def readPrimitive (verbose : Bool) : List Char → Option (Primitive × List Char)
  | [] => none
  | '\\' :: rest => readEscape verbose rest
  | '.' :: rest => some (.any, rest)
  | '^' :: rest => some (.assertion (.line .first), rest)
  | '$' :: rest => some (.assertion (.line .last), rest)
  | c :: rest => some (.literal c false, rest)

end RecordQuery.Pattern

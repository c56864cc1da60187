import RecordQuery.Text.Blank

/-!
# Scanning the text of a pattern

The small readers from which the larger ones are put together.  Each takes the text that is left
and returns what it read with the rest, or nothing if the text does not fit.

In verbose mode, blanks and comments may stand between almost any two characters of a pattern,
even within a number or a name.  `takeChars` reads such a run of characters; `skip` reads none and
so only passes over blanks and comments.
-/

namespace RecordQuery.Pattern

/-- The longest run of characters that satisfy `p`, with the text behind it.  In verbose mode
blanks and comments within the run and behind it are dropped; `comment` says that the text begins
inside a comment, which reaches to the end of its line. -/
def takeChars (verbose : Bool) (p : Char → Bool) (comment : Bool) :
    List Char → List Char × List Char
  | [] => ([], [])
  | c :: rest =>
    if comment then takeChars verbose p (c ≠ '\n') rest
    else if verbose && isBlank c then takeChars verbose p false rest
    else if verbose && c = '#' then takeChars verbose p true rest
    else if p c then
      let (run, behind) := takeChars verbose p false rest
      (c :: run, behind)
    else ([], c :: rest)

/-- The text behind leading blanks and comments, if these are to be skipped. -/
def skip (verbose : Bool) (s : List Char) : List Char :=
  (takeChars verbose (fun _ => false) false s).2

/-- The text is what is left after `c`. -/
def after (c : Char) : List Char → Option (List Char)
  | [] => none
  | d :: rest => if d = c then some rest else none

/-! ## Numbers -/

/-- The value of a digit in a base up to sixteen. -/
def digitValue (c : Char) : Nat :=
  if c.isDigit then c.toNat - '0'.toNat
  else if c.isLower then c.toNat - 'a'.toNat + 10
  else c.toNat - 'A'.toNat + 10

/-- Whether a character is a hexadecimal digit, in either case. -/
def isHexDigit (c : Char) : Bool :=
  c.isDigit || 'a' ≤ c && c ≤ 'f' || 'A' ≤ c && c ≤ 'F'

/-- The number that digits denote. -/
def ofDigits (base : Nat) (ds : List Char) : Nat := ds.foldl (fun n c => base * n + digitValue c) 0

/-- A repetition count: decimal digits below `2 ^ 32`, with blanks around them in any mode. -/
def readCount (verbose : Bool) (s : List Char) : Option (Nat × List Char) :=
  let (digits, rest) := takeChars verbose Char.isDigit false (s.dropWhile isBlank)
  let count := ofDigits 10 digits
  if digits.isEmpty ∨ 0x100000000 ≤ count then none
  else some (count, skip verbose (rest.dropWhile isBlank))

/-- The character with the code that hexadecimal digits denote. -/
def charOfHex (digits : List Char) : Option Char :=
  let code := ofDigits 16 digits
  if digits.isEmpty ∨ ¬code.isValidChar then none else some (Char.ofNat code)

/-- Exactly `n` hexadecimal digits. -/
def readHexDigits (verbose : Bool) : Nat → List Char → Option (List Char × List Char)
  | 0, s => some ([], s)
  | _ + 1, [] => none
  | n + 1, c :: rest =>
    if isHexDigit c then
      (readHexDigits verbose n (skip verbose rest)).map fun (ds, behind) => (c :: ds, behind)
    else none

/-- The text between an opening brace, which has been read, and the closing one. -/
def readBraced (verbose : Bool) (s : List Char) : Option (List Char × List Char) :=
  let (content, rest) := takeChars verbose (· ≠ '\x7d') false s
  (after '\x7d' rest).map fun behind => (content, behind)

end RecordQuery.Pattern

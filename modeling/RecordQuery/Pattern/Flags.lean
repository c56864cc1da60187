/-!
# Flags of a pattern

A group may switch flags on and off, for its own extent as in `(?i-u:...)` or up to the end of the
enclosing group as in `(?x)`.

* `Flag.ofLetter?` — the flag of a letter.
* `Flags` — the settings of all flags at some place of a pattern.
* `FlagChange.read` — reads the letters of a group.  A letter stands once, a minus sign at most
  once and not at the end.
-/

namespace RecordQuery.Pattern

/-- A switch that governs the reading or the meaning of a pattern. -/
inductive Flag
  /-- letters match in either case -/
  | ignoreCase
  /-- line anchors match at every line -/
  | multiLine
  /-- the point matches line ends -/
  | dotAll
  /-- repetitions prefer the other length -/
  | swapGreed
  /-- characters are code points, not bytes -/
  | unicode
  /-- lines end in a carriage return and a line feed -/
  | crlf
  /-- blanks and comments are skipped -/
  | verbose
  deriving DecidableEq, Repr

/-- The flag of a letter. -/
def Flag.ofLetter? : Char → Option Flag
  | 'i' => some ignoreCase
  | 'm' => some multiLine
  | 's' => some dotAll
  | 'U' => some swapGreed
  | 'u' => some unicode
  | 'R' => some crlf
  | 'x' => some verbose
  | _ => none

/-- The settings of the flags. -/
structure Flags where
  /-- letters match in either case -/
  ignoreCase : Bool
  /-- line anchors match at every line -/
  multiLine : Bool
  /-- the point matches line ends -/
  dotAll : Bool
  /-- repetitions prefer the other length -/
  swapGreed : Bool
  /-- characters are code points, not bytes -/
  unicode : Bool
  /-- lines end in a carriage return and a line feed -/
  crlf : Bool
  /-- blanks and comments are skipped -/
  verbose : Bool
  deriving DecidableEq, Repr

/-- The flags at the beginning of a pattern: characters are code points, and all else is off. -/
def Flags.initial : Flags := ⟨false, false, false, false, true, false, false⟩

/-- A flag with its new setting. -/
abbrev FlagChange := Flag × Bool

/-- The flags after a change. -/
def Flags.set (f : Flags) : FlagChange → Flags
  | (.ignoreCase, on) => { f with ignoreCase := on }
  | (.multiLine, on) => { f with multiLine := on }
  | (.dotAll, on) => { f with dotAll := on }
  | (.swapGreed, on) => { f with swapGreed := on }
  | (.unicode, on) => { f with unicode := on }
  | (.crlf, on) => { f with crlf := on }
  | (.verbose, on) => { f with verbose := on }

/-- The flags after several changes. -/
def Flags.setAll (f : Flags) (changes : List FlagChange) : Flags := changes.foldl Flags.set f

/-- What the letters between a question mark and a colon or a parenthesis say. -/
structure FlagGroup where
  /-- the changes, in order -/
  changes : List FlagChange
  /-- whether a colon follows, so that the changes are those of a group that begins here -/
  opensGroup : Bool

/-- Reads flag letters up to a colon or a closing parenthesis.  `negated` says that a minus sign
has been read, `dangling` that it is the last thing read. -/
def readFlags (changes : List FlagChange) (negated dangling : Bool) :
    List Char → Option (FlagGroup × List Char)
  | [] => none
  | c :: rest =>
    if c = ':' ∨ c = ')' then
      if dangling then none else some (⟨changes, c = ':'⟩, rest)
    else if c = '-' then
      if negated then none else readFlags changes true true rest
    else match Flag.ofLetter? c with
      | none => none
      | some f =>
        if changes.any (·.1 = f) then none
        else readFlags (changes ++ [(f, !negated)]) negated false rest

end RecordQuery.Pattern

import RecordQuery.Pattern.Bracket
import RecordQuery.Pattern.Tree
import RecordQuery.Text.Alphabetic
import RecordQuery.Text.Numeric

/-!
# Reading patterns

`Pattern.parse?` reads the text of a pattern into a tree.  It refuses a text

* with unbalanced parentheses or brackets, or with a closing one too many,
* with a repetition that has nothing to repeat: at the beginning of a pattern, of a group or of a
  branch, or behind a change of flags,
* with a malformed count, or one whose lower limit exceeds its upper limit,
* with a group name that is empty, malformed or taken, or with unknown or repeated flags,
* with an escape or a class that has no meaning, or that would match what is no text,
* with parts nested more than `Pattern.maxDepth` levels deep.

Look-around and back references have no syntax at all, so they fail as unknown flags or escapes.
-/

namespace RecordQuery.Pattern

/-- How deep the parts of a pattern may be nested. -/
def maxDepth : Nat := 250

/-! ## Groups -/

/-- Whether a character may stand in the name of a group.  Digits and some punctuation may not
begin it. -/
def isNameChar (c : Char) (first : Bool) : Bool :=
  c = '_' || alphabetic.contains c
    || !first && (c = '.' || c = '[' || c = ']' || numeric.contains c)

/-- The name of a group, up to the angle bracket behind it. -/
def readName (first : Bool) : List Char → Option (List Char × List Char)
  | [] => none
  | c :: rest =>
    if c = '>' then if first then none else some ([], rest)
    else if isNameChar c first then
      (readName false rest).map fun (name, behind) => (c :: name, behind)
    else none

/-- What an opening parenthesis begins. -/
inductive Opening
  /-- a group that captures, perhaps under a name -/
  | capture (name : Option String)
  /-- a group that does not capture, with its flags -/
  | plain (changes : List FlagChange)
  /-- no group, but a change of flags -/
  | change (changes : List FlagChange)

/-- Reads what follows an opening parenthesis.  A question mark without anything to say is a
repetition of nothing. -/
def readOpening (verbose : Bool) (s : List Char) : Option (Opening × List Char) :=
  let named (rest : List Char) := (readName true rest).map fun (name, behind) =>
    (Opening.capture (some (String.ofList name)), behind)
  match skip verbose s with
  | '?' :: 'P' :: '<' :: rest => named rest
  | '?' :: '<' :: rest => named rest
  | '?' :: rest => do
    let (flags, behind) ← readFlags [] false false rest
    if flags.opensGroup then return (.plain flags.changes, behind)
    else if flags.changes.isEmpty then none
    else return (.change flags.changes, behind)
  | rest => some (.capture none, rest)

/-! ## Repetitions -/

/-- The limits of a counted repetition, behind its opening brace. -/
def readLimits (verbose : Bool) (s : List Char) : Option ((Nat × Option Nat) × List Char) := do
  let (least, rest) ← readCount verbose (skip verbose s)
  let (most, rest) ← match rest with
    | ',' :: behind =>
      match skip verbose behind with
      | '\x7d' :: rest => pure (none, '\x7d' :: rest)
      | behind =>
        let (most, rest) ← readCount verbose behind
        if most < least then none else pure (some most, rest)
    | rest => pure (some least, rest)
  return ((least, most), ← after '\x7d' rest)

/-- Whether a repetition prefers many rounds, which a question mark behind it denies. -/
def readGreed : List Char → Bool × List Char
  | '?' :: rest => (false, rest)
  | rest => (true, rest)

/-! ## The state of a reading -/

/-- A group whose closing parenthesis has not been read, with what precedes it. -/
structure OpenGroup where
  /-- the items before it in its branch, the last one first -/
  items : List Pattern
  /-- the branches before this branch, the last one first -/
  branches : List Pattern
  /-- whether it captures -/
  captures : Bool
  /-- the flags in force before it -/
  flags : Flags

/-- What has been read. -/
structure Reading where
  /-- the open groups, the innermost one first -/
  groups : List OpenGroup
  /-- the branches of the innermost group that are complete, the last one first -/
  branches : List Pattern
  /-- the items of the present branch, the last one first -/
  items : List Pattern
  /-- the flags in force -/
  flags : Flags
  /-- the group names in use -/
  names : List String

namespace Reading

/-- Nothing has been read. -/
def initial : Reading := ⟨[], [], [], .initial, []⟩

/-- Adds an item to the present branch. -/
def add (r : Reading) (item : Pattern) : Reading := { r with items := item :: r.items }

/-- The present branch. -/
def branch (r : Reading) : Pattern := ofItems r.items.reverse

/-- The content of the innermost group. -/
def content (r : Reading) : Pattern := ofBranches (r.branch :: r.branches).reverse

/-- Ends the present branch. -/
def endBranch (r : Reading) : Reading :=
  { r with branches := r.branch :: r.branches, items := [] }

/-- Adds a primitive, which has to match nothing but text. -/
def addPrimitive (r : Reading) (p : Primitive) : Option Reading :=
  if p.isText r.flags.unicode then
    some <| r.add <| match p with
      | .literal c _ => .literal c r.flags
      | .any => .any r.flags
      | .assertion a => .assertion a r.flags
      | .named c => .oneOf (.named c) r.flags
  else none

/-- Adds a class, which has to match nothing but text. -/
def addClass (r : Reading) (c : CharClass) : Option Reading :=
  if c.isText r.flags.unicode then some (r.add (.oneOf c r.flags)) else none

/-- Repeats the last item, which must be something to repeat.  The text behind the limits says
which number of rounds is preferred, unless the flags say the contrary. -/
def repeatLast (r : Reading) (least : Nat) (most : Option Nat) (s : List Char) :
    Option (Reading × List Char) :=
  match r.items with
  | [] | .flagChange :: _ => none
  | item :: items =>
    let (greedy, behind) := readGreed s
    let repeated := Pattern.repetition item least most (greedy != r.flags.swapGreed)
    some ({ r with items := repeated :: items }, behind)

/-- Begins a group. -/
def openGroup (r : Reading) (captures : Bool) (flags : Flags) : Reading :=
  { r with
    groups := ⟨r.items, r.branches, captures, r.flags⟩ :: r.groups
    branches := []
    items := []
    flags := flags }

/-- Takes up what an opening parenthesis begins.  A group name must not be in use. -/
def takeOpening (r : Reading) : Opening → Option Reading
  | .capture none => some (r.openGroup true r.flags)
  | .capture (some name) =>
    if name ∈ r.names then none
    else some ({ r with names := name :: r.names }.openGroup true r.flags)
  | .plain changes => some (r.openGroup false (r.flags.setAll changes))
  | .change changes => some ({ r with flags := r.flags.setAll changes }.add .flagChange)

/-- Ends the innermost group.  The flags from before it are in force again. -/
def closeGroup (r : Reading) : Option Reading :=
  match r.groups with
  | [] => none
  | g :: groups =>
    some { r with
      groups := groups
      branches := g.branches
      items := .group g.captures r.content :: g.items
      flags := g.flags }

/-- Reads on from the next character, which is neither blank nor comment if these are skipped. -/
def step (r : Reading) : List Char → Option (Reading × List Char)
  | '(' :: rest => do
    let (opening, behind) ← readOpening r.flags.verbose rest
    return (← r.takeOpening opening, behind)
  | ')' :: rest => r.closeGroup.map fun r => (r, rest)
  | '|' :: rest => some (r.endBranch, rest)
  | '[' :: rest => do
    let (c, behind) ← readBracket r.flags.verbose rest
    return (← r.addClass c, behind)
  | '?' :: rest => r.repeatLast 0 (some 1) rest
  | '*' :: rest => r.repeatLast 0 none rest
  | '+' :: rest => r.repeatLast 1 none rest
  | '\x7b' :: rest => do
    let ((least, most), behind) ← readLimits r.flags.verbose rest
    r.repeatLast least most (skip r.flags.verbose behind)
  | s => do
    let (p, behind) ← readPrimitive r.flags.verbose s
    return (← r.addPrimitive p, behind)

/-- Reads a text to its end.  Every step reads at least one character, so as many rounds as there
are characters suffice, and one to find the end. -/
def readAll : Nat → Reading → List Char → Option Reading
  | 0, _, _ => none
  | rounds + 1, r, s =>
    match skip r.flags.verbose s with
    | [] => some r
    | s =>
      match r.step s with
      | none => none
      | some (r, rest) => readAll rounds r rest

end Reading

/-- **Reads a pattern.**  All groups must be closed, and the parts not nested too deep. -/
def parse? (text : String) : Option Pattern := do
  let s := text.toList
  let r ← Reading.readAll (s.length + 1) .initial s
  if r.groups.isEmpty ∧ r.content.depth ≤ maxDepth then some r.content else none

end RecordQuery.Pattern

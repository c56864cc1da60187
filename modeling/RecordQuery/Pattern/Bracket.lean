import RecordQuery.Pattern.Escape

/-!
# Classes in brackets

`readBracket` reads a class behind its opening bracket.

A hyphen denotes a range between two characters; at the beginning of a class, before its end and
before another hyphen it stands for itself.  A closing bracket directly behind the opening one
stands for itself too, so a class is never empty as written.  Inside a class, `[:alpha:]` and the
like name classes of ASCII characters; with a name that is unknown the same text is a nested class
of its letters.
-/

namespace RecordQuery.Pattern

/-- A class of ASCII characters behind its opening bracket, such as `:^alpha:]`. -/
def readAscii : List Char → Option (CharClass × List Char)
  | ':' :: rest =>
    let (negated, rest) := match rest with
      | '^' :: rest => (true, rest)
      | rest => (false, rest)
    let name := rest.takeWhile (· ≠ ':')
    match rest.drop name.length with
    | ':' :: ']' :: behind =>
      (asciiClasses.lookup (String.ofList name)).map fun s => (.ascii s negated, behind)
    | _ => none
  | _ => none

/-- The next character that is neither a blank nor the mark of a comment, in verbose mode; else the
next character. -/
def peek (verbose comment : Bool) : List Char → Option Char
  | [] => none
  | c :: rest =>
    if verbose && isBlank c then peek verbose comment rest
    else if verbose && !comment && c = '#' then peek verbose true rest
    else some c

/-- A member of a class: an escape, or a character as it is. -/
def readClassMember (verbose : Bool) : List Char → Option (Primitive × List Char)
  | [] => none
  | '\\' :: rest => readEscape verbose rest
  | c :: rest => some (.literal c false, rest)

/-- A primitive as a part of a class, which the point and positions cannot be. -/
def Primitive.toClass? : Primitive → Option CharClass
  | literal c _ => some (.single c)
  | named c => some (.named c)
  | any | assertion _ => none

/-- The range between two primitives, which must be characters in ascending order. -/
def Primitive.rangeTo? : Primitive → Primitive → Option CharClass
  | literal first _, literal last _ => if first ≤ last then some (.range first last) else none
  | _, _ => none

/-- A member of a class, or a range of which it is the first character. -/
def readClassRange (verbose : Bool) (s : List Char) : Option (CharClass × List Char) := do
  let (first, rest) ← readClassMember verbose s
  match skip verbose rest with
  | '-' :: behind =>
    let next := peek verbose false behind
    if next = some ']' ∨ next = some '-' then
      return (← first.toClass?, '-' :: behind)
    else
      let (last, rest) ← readClassMember verbose (skip verbose behind)
      return (← first.rangeTo? last, rest)
  | rest => return (← first.toClass?, rest)

/-- What has been read between two brackets. -/
structure OpenClass where
  /-- whether the complement is meant -/
  negated : Bool
  /-- the operand on the left of the last operator, with that operator -/
  left : Option (SetOperator × CharClass)
  /-- the parts read since, the last one first -/
  parts : List CharClass

namespace OpenClass

/-- Adds a part. -/
def add (o : OpenClass) (part : CharClass) : OpenClass := { o with parts := part :: o.parts }

/-- What has been read, as one class. -/
def body (o : OpenClass) : CharClass :=
  let operand := CharClass.ofParts o.parts.reverse
  match o.left with
  | none => operand
  | some (op, left) => .combination op left operand

/-- What has been read becomes the left operand of an operator. -/
def operate (o : OpenClass) (op : SetOperator) : OpenClass :=
  { o with left := some (op, o.body), parts := [] }

end OpenClass

/-- The class that begins behind an opening bracket, and the text behind a circumflex that negates
it. -/
def openClass (verbose : Bool) (s : List Char) : OpenClass × List Char :=
  match skip verbose s with
  | '^' :: rest => (⟨true, none, []⟩, rest)
  | rest => (⟨false, none, []⟩, rest)

/-- The operator that begins with this character, if it stands twice. -/
def setOperator? (c : Char) (rest : List Char) : Option (SetOperator × List Char) := do
  let behind ← after c rest
  match c with
  | '&' => return (.intersection, behind)
  | '-' => return (.difference, behind)
  | '~' => return (.symmetricDifference, behind)
  | _ => none

/-- Reads up to the closing bracket of the outermost class.  `fresh` says that nothing but hyphens
has been read since the last opening bracket, `outer` holds the enclosing classes.  Every round
reads at least one character, so as many rounds as there are characters suffice. -/
def readBracketWithin (verbose : Bool) :
    Nat → Bool → OpenClass → List OpenClass → List Char → Option (CharClass × List Char)
  | 0, _, _, _, _ => none
  | rounds + 1, fresh, current, outer, s =>
    match skip verbose s with
    | [] => none
    | c :: rest =>
      if fresh ∧ c = '-' then
        readBracketWithin verbose rounds true (current.add (.single '-')) outer rest
      else if fresh ∧ c = ']' ∧ current.parts.isEmpty then
        readBracketWithin verbose rounds false (current.add (.single ']')) outer rest
      else if c = '[' then
        match readAscii rest with
        | some (part, behind) =>
          readBracketWithin verbose rounds false (current.add part) outer behind
        | none =>
          let (inner, behind) := openClass verbose rest
          readBracketWithin verbose rounds true inner (current :: outer) behind
      else if c = ']' then
        let closed := CharClass.bracket current.negated current.body
        match outer with
        | [] => some (closed, rest)
        | enclosing :: outer =>
          readBracketWithin verbose rounds false (enclosing.add closed) outer rest
      else match setOperator? c rest with
        | some (op, behind) =>
          readBracketWithin verbose rounds false (current.operate op) outer behind
        | none =>
          match readClassRange verbose (c :: rest) with
          | none => none
          | some (part, behind) =>
            readBracketWithin verbose rounds false (current.add part) outer behind

/-- **Reads a class** behind its opening bracket. -/
def readBracket (verbose : Bool) (s : List Char) : Option (CharClass × List Char) :=
  let (current, rest) := openClass verbose s
  readBracketWithin verbose (s.length + 1) true current [] rest

end RecordQuery.Pattern

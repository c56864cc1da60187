import RecordQuery.Pattern.Flags
import RecordQuery.Pattern.Property

/-!
# Classes of characters

A class in brackets is a union of characters, ranges and named classes, or a combination of such
unions by intersection (`&&`), difference (`--`) and symmetric difference (`~~`), which associate
to the left and bind equally.  Brackets may be nested.

* `NamedClass`, `CharClass` — the types.
* `NamedClass.isText`, `CharClass.isText` — a pattern has to match valid text.  As long as
  characters are code points every class does; when they are bytes, a class must stay within ASCII,
  which excludes complements of any kind.
* `NamedClass.members`, `CharClass.members` — the characters of a class.
* `CharClass.depth` — the depth of nesting.
-/

namespace RecordQuery.Pattern

/-- The classes with a letter of their own. -/
inductive Shorthand
  /-- decimal digits -/
  | digit
  /-- blanks -/
  | space
  /-- letters, digits and connecting punctuation -/
  | word
  deriving DecidableEq, Repr

/-- A class that is referred to by an escape. -/
inductive NamedClass
  /-- a class with a letter of its own, or its complement -/
  | shorthand (kind : Shorthand) (negated : Bool)
  /-- a class of the standard, or its complement -/
  | property (query : PropertyQuery) (negated : Bool)
  deriving DecidableEq, Repr

/-- Whether the class exists and contains nothing that is not text. -/
def NamedClass.isText (unicode : Bool) : NamedClass → Bool
  | shorthand _ negated => unicode || !negated
  | property query _ => unicode && query.members?.isSome

/-- A set of characters with the other cases of its letters, if case is ignored.  When characters
are bytes, only letters of ASCII have another case. -/
def Flags.closeUnderCase (f : Flags) (s : CodeRanges) : CodeRanges :=
  if !f.ignoreCase then s
  else if f.unicode then Unicode.closeUnderCase s
  else
    s.unite <| (Unicode.closeUnderCase (s.intersect Unicode.ascii)).intersect Unicode.ascii

/-- A set of characters, or its complement if so set. -/
def complementIf (negated : Bool) (s : CodeRanges) : CodeRanges :=
  if negated then s.complement else s

/-- The characters of a shorthand.  When characters are bytes, it stands for those of ASCII. -/
def Shorthand.members (unicode : Bool) (kind : Shorthand) : CodeRanges :=
  let all := match kind with
    | digit => Unicode.decimalNumber
    | space => blank
    | word => Unicode.word
  if unicode then all else all.intersect Unicode.ascii

/-- The characters of a named class.  A shorthand means the same whether case is ignored or not. -/
def NamedClass.members (f : Flags) : NamedClass → CodeRanges
  | shorthand kind negated => complementIf negated (kind.members f.unicode)
  | property query negated => complementIf negated (f.closeUnderCase (query.members?.getD []))

/-- How two classes are combined. -/
inductive SetOperator
  | intersection
  | difference
  | symmetricDifference
  deriving DecidableEq, Repr

/-- The combination of two sets. -/
def SetOperator.apply : SetOperator → CodeRanges → CodeRanges → CodeRanges
  | intersection => CodeRanges.intersect
  | difference => CodeRanges.without
  | symmetricDifference => CodeRanges.exactlyOne

/-- A class of characters, as written. -/
inductive CharClass
  /-- nothing, as on the right of `[a&&]` -/
  | nothing
  /-- one character -/
  | single (c : Char)
  /-- the characters from the first to the last -/
  | range (first last : Char)
  /-- a class of ASCII characters that is referred to by its name, or its complement -/
  | ascii (members : CodeRanges) (negated : Bool)
  /-- a class that is referred to by an escape -/
  | named (c : NamedClass)
  /-- two or more parts -/
  | union (parts : List CharClass)
  /-- a combination of two classes -/
  | combination (op : SetOperator) (left right : CharClass)
  /-- brackets around a class, or around its complement -/
  | bracket (negated : Bool) (body : CharClass)
  deriving Inhabited

/-- The classes of ASCII characters by name. -/
def asciiClasses : List (String × CodeRanges) :=
  [("alnum", [(0x30, 0x39), (0x41, 0x5a), (0x61, 0x7a)]),
    ("alpha", [(0x41, 0x5a), (0x61, 0x7a)]),
    ("ascii", [(0x0, 0x7f)]),
    ("blank", [(0x9, 0x9), (0x20, 0x20)]),
    ("cntrl", [(0x0, 0x1f), (0x7f, 0x7f)]),
    ("digit", [(0x30, 0x39)]),
    ("graph", [(0x21, 0x7e)]),
    ("lower", [(0x61, 0x7a)]),
    ("print", [(0x20, 0x7e)]),
    ("punct", [(0x21, 0x2f), (0x3a, 0x40), (0x5b, 0x60), (0x7b, 0x7e)]),
    ("space", [(0x9, 0xd), (0x20, 0x20)]),
    ("upper", [(0x41, 0x5a)]),
    ("word", [(0x30, 0x39), (0x41, 0x5a), (0x5f, 0x5f), (0x61, 0x7a)]),
    ("xdigit", [(0x30, 0x39), (0x41, 0x46), (0x61, 0x66)])]

namespace CharClass

/-- The union of a list of parts.  A single part stands for itself. -/
def ofParts : List CharClass → CharClass
  | [] => nothing
  | [part] => part
  | parts => union parts

mutual

/-- Whether the class and everything in it is text. -/
def isText (unicode : Bool) : CharClass → Bool
  | nothing => true
  | single c => unicode || c.toNat < 128
  | range first last => unicode || first.toNat < 128 && last.toNat < 128
  | ascii _ negated => unicode || !negated
  | named c => c.isText unicode
  | union parts => allText unicode parts
  | combination _ left right => left.isText unicode && right.isText unicode
  | bracket negated body => (unicode || !negated) && body.isText unicode

/-- Whether every part is text. -/
def allText (unicode : Bool) : List CharClass → Bool
  | [] => true
  | part :: parts => part.isText unicode && allText unicode parts

end

mutual

/-- **The characters of the class.**  Where case is ignored, brackets, named classes and the
operands of a combination take in the other cases of their letters before anything else. -/
def members (f : Flags) : CharClass → CodeRanges
  | nothing => []
  | single c => [(c.toNat, c.toNat)]
  | range first last => [(first.toNat, last.toNat)]
  | ascii s negated => complementIf negated (f.closeUnderCase s)
  | named c => c.members f
  | union parts => .ofRanges (membersOfAll f parts)
  | combination op left right =>
    op.apply (f.closeUnderCase (left.members f)) (f.closeUnderCase (right.members f))
  | bracket negated body => complementIf negated (f.closeUnderCase (body.members f))

/-- The ranges of all parts. -/
def membersOfAll (f : Flags) : List CharClass → List (Nat × Nat)
  | [] => []
  | part :: parts => part.members f ++ membersOfAll f parts

end

mutual

/-- The depth of nesting.  Brackets, unions and combinations each add one level. -/
def depth : CharClass → Nat
  | nothing | single _ | range _ _ | ascii _ _ | named _ => 0
  | union parts => depths parts + 1
  | combination _ left right => max left.depth right.depth + 1
  | bracket _ body => body.depth + 1

/-- The greatest depth among the parts. -/
def depths : List CharClass → Nat
  | [] => 0
  | part :: parts => max part.depth (depths parts)

end

end CharClass

end RecordQuery.Pattern

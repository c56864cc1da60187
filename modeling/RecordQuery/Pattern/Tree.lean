import RecordQuery.Pattern.Assertion
import RecordQuery.Pattern.CharClass

/-!
# Patterns as trees

The tree follows the text closely.  The flags are those in force where a part stands.

* `Pattern` — the tree of a pattern.
* `Pattern.ofItems`, `Pattern.ofBranches` — sequences and alternatives; one item, or one branch,
  stands for itself.
* `Pattern.depth` — the depth of nesting, which is limited.
-/

namespace RecordQuery

open Pattern

/-- The tree of a search pattern. -/
inductive Pattern
  /-- the pattern without items -/
  | empty
  /-- a character -/
  | literal (c : Char) (flags : Flags)
  /-- any character -/
  | any (flags : Flags)
  /-- a condition on the position, such as the begin of a line -/
  | assertion (a : Assertion) (flags : Flags)
  /-- one character of a class -/
  | oneOf (c : CharClass) (flags : Flags)
  /-- a change of flags -/
  | flagChange
  /-- a number of repetitions, without upper limit if `most` is none, rather many than few if
  `greedy` -/
  | repetition (body : Pattern) (least : Nat) (most : Option Nat) (greedy : Bool)
  /-- parentheses, capturing what they match if so set -/
  | group (captures : Bool) (body : Pattern)
  /-- one item after the other -/
  | sequence (items : List Pattern)
  /-- one of several branches -/
  | alternatives (branches : List Pattern)
  deriving Inhabited

namespace Pattern

/-- The sequence of a list of items. -/
def ofItems : List Pattern → Pattern
  | [] => empty
  | [item] => item
  | items => sequence items

/-- The alternatives of a list of branches. -/
def ofBranches : List Pattern → Pattern
  | [branch] => branch
  | branches => alternatives branches

mutual

/-- The depth of nesting.  Everything that has parts adds one level, classes in brackets
included. -/
def depth : Pattern → Nat
  | empty | literal _ _ | any _ | assertion _ _ | flagChange => 0
  | oneOf c _ => c.depth
  | repetition body _ _ _ => body.depth + 1
  | group _ body => body.depth + 1
  | sequence items => depths items + 1
  | alternatives branches => depths branches + 1

/-- The greatest depth among the parts. -/
def depths : List Pattern → Nat
  | [] => 0
  | p :: ps => max p.depth (depths ps)

end

end Pattern

end RecordQuery

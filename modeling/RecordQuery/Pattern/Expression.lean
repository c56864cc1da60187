import RecordQuery.Pattern.Assertion
import RecordQuery.Text.CodeRanges.Combination
import RecordQuery.Text.Utf8

/-!
# What patterns stand for

An expression says what a pattern matches, without regard to how that is written: escapes, flags
and groups that do not capture are gone, and texts are bytes.

* `Expression` — the type.
* `Expression.matchesOnlyEmpty`, `Expression.leastLength` — on the lengths of its matches.
* `Expression.isAnchored` — whether every match lies at a certain end of the text.
-/

namespace RecordQuery.Pattern

/-- What a pattern matches. -/
inductive Expression
  /-- the empty text -/
  | empty
  /-- a text, given by its bytes -/
  | literal (bytes : List Nat)
  /-- one character of a set -/
  | oneOf (members : CodeRanges)
  /-- the empty text at certain positions -/
  | position (p : Position)
  /-- a number of repetitions, without upper limit if `most` is none, rather many than few if
  `greedy` -/
  | repetition (body : Expression) (least : Nat) (most : Option Nat) (greedy : Bool)
  /-- whatever the body matches, which is remembered -/
  | capture (body : Expression)
  /-- one item after the other -/
  | sequence (items : List Expression)
  /-- one of several branches -/
  | alternatives (branches : List Expression)
  deriving Inhabited

namespace Expression

/-- The bytes of a text. -/
def literal? : Expression → Option (List Nat)
  | literal bytes => some bytes
  | _ => none

mutual

/-- Whether two expressions are the same.  Two captures never are, for each is remembered under
its own number. -/
def isSame : Expression → Expression → Bool
  | empty, empty => true
  | literal s, literal t => s = t
  | oneOf s, oneOf t => s = t
  | position p, position q => p = q
  | repetition body least most greedy, repetition body' least' most' greedy' =>
    least = least' && most = most' && greedy = greedy' && isSame body body'
  | sequence items, sequence items' => areSame items items'
  | alternatives branches, alternatives branches' => areSame branches branches'
  | _, _ => false

/-- Whether two lists consist of the same expressions. -/
def areSame : List Expression → List Expression → Bool
  | [], [] => true
  | e :: es, f :: fs => isSame e f && areSame es fs
  | _, _ => false

end

/-- The longest list of expressions with which both lists begin. -/
def commonItems : List Expression → List Expression → List Expression
  | e :: es, f :: fs => if isSame e f then e :: commonItems es fs else []
  | _, _ => []

mutual

/-- The number of expressions of which this one is made. -/
def size : Expression → Nat
  | empty | literal _ | oneOf _ | position _ => 1
  | repetition body _ _ _ | capture body => body.size + 1
  | sequence es | alternatives es => sizes es + 1

/-- The number of expressions of which these are made. -/
def sizes : List Expression → Nat
  | [] => 0
  | e :: es => e.size + sizes es

end

mutual

/-- Whether every match is empty. -/
def matchesOnlyEmpty : Expression → Bool
  | empty | position _ => true
  | literal _ | oneOf _ => false
  | repetition body _ most _ => body.matchesOnlyEmpty && most.isSome
  | capture body => body.matchesOnlyEmpty
  | sequence es | alternatives es => allMatchOnlyEmpty es

/-- Whether every match of every part is empty. -/
def allMatchOnlyEmpty : List Expression → Bool
  | [] => true
  | e :: es => e.matchesOnlyEmpty && allMatchOnlyEmpty es

end

mutual

/-- The least length of a match in bytes, if every part of the expression has a match. -/
def leastLength : Expression → Option Nat
  | empty | position _ => some 0
  | literal bytes => some bytes.length
  | oneOf s => s.head?.map fun (first, _) => (Utf8.encode first).length
  | repetition body least _ _ => body.leastLength.map (least * ·)
  | capture body => body.leastLength
  | sequence items => lengthOfItems items
  | alternatives branches => lengthOfBranches branches

/-- The least length of a match of all items, one after the other. -/
def lengthOfItems : List Expression → Option Nat
  | [] => some 0
  | e :: es => do return (← e.leastLength) + (← lengthOfItems es)

/-- The least length of a match of one of the branches. -/
def lengthOfBranches : List Expression → Option Nat
  | [] => none
  | [e] => e.leastLength
  | e :: es => do return min (← e.leastLength) (← lengthOfBranches es)

end

mutual

/-- Whether every match lies at that end of the text. -/
def isAnchored (edge : Edge) : Expression → Bool
  | position p => p = .text edge
  | repetition body least _ _ => 0 < least && body.isAnchored edge
  | capture body => body.isAnchored edge
  | sequence items =>
    match edge with
    | .first => anchorsFirst items
    | .last => anchorsLast items
  | alternatives branches => allAnchored edge branches
  | empty | literal _ | oneOf _ => false

/-- Whether one of the items with which the sequence begins is anchored to the begin of the text,
while those before it match only the empty text. -/
def anchorsFirst : List Expression → Bool
  | [] => false
  | e :: es => e.isAnchored .first || e.matchesOnlyEmpty && anchorsFirst es

/-- Whether one of the items with which the sequence ends is anchored to the end of the text, while
those behind it match only the empty text. -/
def anchorsLast : List Expression → Bool
  | [] => false
  | e :: es => anchorsLast es || allMatchOnlyEmpty es && e.isAnchored .last

/-- Whether all branches are anchored. -/
def allAnchored (edge : Edge) : List Expression → Bool
  | [] => true
  | e :: es => e.isAnchored edge && allAnchored edge es

end

end Expression

end RecordQuery.Pattern

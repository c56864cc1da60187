import RecordQuery.Pattern.Extent

/-!
# The automaton of several texts

Alternatives between texts become a tree in which texts share what they begin with.  What is added
behind the end of a text within the tree is kept apart from what was there before, so that earlier
alternatives keep their precedence.

* `LiteralTrie.ofTexts` — the tree of several texts.
* `LiteralTrie.layOut` — lays out its automaton.
-/

namespace RecordQuery.Pattern

/-- The ways that lead from a place of the tree, in the order of their precedence. -/
inductive LiteralTrie
  /-- no more ways -/
  | done
  /-- a byte, the place to which it leads, and more ways -/
  | byte (b : Nat) (target rest : LiteralTrie)
  /-- the end of a text, and more ways -/
  | ending (rest : LiteralTrie)

namespace LiteralTrie

/-- Whether a text ends here. -/
def hasEnding : LiteralTrie → Bool
  | done => false
  | byte _ _ rest => rest.hasEnding
  | ending _ => true

/-- Whether no byte leads on. -/
def isLeaf : LiteralTrie → Bool
  | done => true
  | byte _ _ _ => false
  | ending rest => rest.isLeaf

/-- Adds an end behind all ways. -/
def addEnding : LiteralTrie → LiteralTrie
  | done => ending done
  | byte b target rest => byte b target rest.addEnding
  | ending rest => ending rest.addEnding

/-- Makes what a byte leads to grow.  Only the ways behind the last end are looked through; among
these the bytes ascend. -/
def growAt (b : Nat) (grow : LiteralTrie → LiteralTrie) : LiteralTrie → LiteralTrie
  | done => byte b (grow done) done
  | ending rest => ending (rest.growAt b grow)
  | byte c target rest =>
    if rest.hasEnding ∨ c < b then byte c target (rest.growAt b grow)
    else if c = b then byte c (grow target) rest
    else byte b (grow done) (byte c target rest)

/-- Adds a text.  A text that ends where nothing follows need not be added twice. -/
def add : List Nat → LiteralTrie → LiteralTrie
  | [], t => if t.isLeaf && t.hasEnding then t else t.addEnding
  | b :: rest, t => t.growAt b (add rest)

/-- The tree of several texts, the first of which takes precedence. -/
def ofTexts (texts : List (List Nat)) : LiteralTrie := texts.foldl (fun t s => add s t) done

/-- The extent of a number of bytes without an end among them, and of the way to them. -/
def group : Nat → Extent
  | 0 => ⟨0, 0⟩
  | 1 => ⟨1, Extent.waySize⟩
  | n => ⟨1, n * Extent.rangeSize + Extent.waySize⟩

/-- The extent of the tree, behind a state from which the groups of bytes are reached.  `bytes` is
the number of bytes in the present group so far. -/
def extent (bytes : Nat) : LiteralTrie → Extent
  | done => group bytes
  | ending rest => group bytes + ⟨0, Extent.waySize⟩ + rest.extent 0
  | byte _ target rest =>
    let below := if target.isLeaf then .zero else ⟨1, 0⟩ + target.extent 0
    below + rest.extent (bytes + 1)

/-- **Lays out the automaton**, with one state at the begin and one at the end. -/
def layOut (t : LiteralTrie) (x : Extent) : Option Extent :=
  let e := t.extent 0
  x.add (e.states + 2) e.ways

end LiteralTrie

end RecordQuery.Pattern

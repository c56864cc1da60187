import Std.Data.HashMap

/-!
# Remembering states

A class of characters becomes a part of an automaton in which states that lead the same ways are
shared.  Which states are there is remembered in a table with a fixed number of slots.  A state's
ways, as a list of numbers, determine its slot, and a slot holds one state: the last one put there.
So not every state is found again, and some are laid out more than once.

* `Cache.find?`, `Cache.insert` — looks a state up, and remembers one.
-/

namespace RecordQuery.Pattern

/-- States that are remembered, by slot. -/
structure Cache where
  /-- the number of slots -/
  slots : Nat
  /-- the ways of a state and its number, for every slot in use -/
  held : Std.HashMap Nat (List Nat × Nat)

namespace Cache

/-- A table with nothing in it. -/
def empty (slots : Nat) : Cache := ⟨slots, ∅⟩

/-- A 64-bit digest of a list of numbers. -/
def digest (ns : List Nat) : UInt64 :=
  ns.foldl (fun h n => (h ^^^ n.toUInt64) * 1099511628211) 14695981039346656037

/-- The slot of a state with these ways. -/
def slot (c : Cache) (ways : List Nat) : Nat := (digest ways).toNat % c.slots

/-- The number of the state with these ways, if it is remembered. -/
def find? (c : Cache) (ways : List Nat) : Option Nat :=
  match c.held[c.slot ways]? with
  | some (ways', number) => if ways' = ways then some number else none
  | none => none

/-- Remembers a state in place of the one with which it shares its slot. -/
def insert (c : Cache) (ways : List Nat) (number : Nat) : Cache :=
  { c with held := c.held.insert (c.slot ways) (ways, number) }

end Cache

end RecordQuery.Pattern

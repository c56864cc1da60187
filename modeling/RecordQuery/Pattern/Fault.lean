/-!
# What can be wrong with a pattern

A search pattern is rejected either because its text is not a pattern or because the program it
stands for would exceed the memory set aside for one.
-/

namespace RecordQuery

/-- Why a pattern is rejected. -/
inductive PatternFault
  /-- the text is no pattern -/
  | malformed
  /-- the pattern's program is too large -/
  | tooLarge
  deriving DecidableEq, Inhabited, Repr

end RecordQuery

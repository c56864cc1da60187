import RecordQuery.Text.CodeRanges

/-!
# Named sets of characters

The standard knows most of its sets under a long and a short name.  The names are kept in the
form in which case, blanks, hyphens and underscores are gone.
-/

namespace RecordQuery.Unicode

/-- A set of characters with its names. -/
structure NamedSet where
  /-- the names, the longest one first -/
  names : List String
  /-- the characters -/
  members : CodeRanges

/-- The first set of that name. -/
def NamedSet.find? (sets : List NamedSet) (name : String) : Option CodeRanges :=
  (sets.find? (name ∈ ·.names)).map NamedSet.members

end RecordQuery.Unicode

import RecordQuery.Pattern.Expression.Simplified
import RecordQuery.Pattern.Tree

/-!
# The meaning of patterns

* `Expression.ofPattern` — what a pattern stands for.
-/

namespace RecordQuery.Pattern

/-- The characters that the point matches: all of them, or all that do not end a line. -/
def Flags.point (f : Flags) : CodeRanges :=
  if f.dotAll then Unicode.any
  else
    CodeRanges.complement (if f.crlf then [(0xa, 0xa), (0xd, 0xd)] else [(0xa, 0xa)])

namespace Expression

mutual

/-- **What a pattern stands for.** -/
def ofPattern : Pattern → Expression
  | .empty | .flagChange => empty
  | .literal c flags => ofMembers (flags.closeUnderCase [(c.toNat, c.toNat)])
  | .any flags => ofMembers flags.point
  | .assertion a flags => position (a.position flags)
  | .oneOf c flags => ofMembers (c.members flags)
  | .repetition body least most greedy => (ofPattern body).repeated least most greedy
  | .group captures body => if captures then capture (ofPattern body) else ofPattern body
  | .sequence items => inSequence (ofPatterns items)
  | .alternatives branches => amongBranches (ofPatterns branches)

/-- What several patterns stand for. -/
def ofPatterns : List Pattern → List Expression
  | [] => []
  | p :: ps => ofPattern p :: ofPatterns ps

end

end Expression

end RecordQuery.Pattern

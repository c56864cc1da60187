import RecordQuery.Pattern.Check

/-!
# Judges of patterns

Whether a text is a usable pattern is decided by the engine that will execute it.  What is built
and compiled depends on that engine only through its verdicts, so they are taken from a
`PatternJudge`, and what is proved about documents holds whatever the judge says.  The judge brings
along what it can have against a text, so a fault carries the very cause that the judge gave.

The judge that is used unless another one is given is `Pattern.check`.  It tells two causes apart
and explains neither.
-/

namespace RecordQuery

/-- **A judge of patterns.** -/
class PatternJudge where
  /-- what can be wrong with a text -/
  Cause : Type
  /-- the wording of a cause -/
  explain : Cause → String
  /-- Accepts the texts that are usable patterns and says of the others what is wrong with them. -/
  judge : String → Except Cause Unit

instance : PatternJudge where
  Cause := PatternFault
  explain _ := ""
  judge := Pattern.check

end RecordQuery

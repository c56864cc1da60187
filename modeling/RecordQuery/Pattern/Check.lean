import RecordQuery.Pattern.Fault
import RecordQuery.Pattern.Program
import RecordQuery.Pattern.Reader

/-!
# Judging patterns

A text is a usable pattern if it can be read as one (`Pattern.parse?`) and if the automata that
execute it fit into memory (`Pattern.fits`).
-/

namespace RecordQuery.Pattern

/-- **Accepts usable patterns** and says of the others what is wrong with them. -/
def check (text : String) : Except PatternFault Unit :=
  match parse? text with
  | none => .error .malformed
  | some p => if p.fits then .ok () else .error .tooLarge

end RecordQuery.Pattern

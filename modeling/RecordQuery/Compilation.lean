import RecordQuery.Builder
import RecordQuery.Descriptor

/-!
# Compiling records

A record is compiled by going through its descriptors in order.

1. The declared tag must be the tag of an operator.  This holds of unset fields as well, unless
   they are exempted.
2. An unset field contributes nothing.
3. The value of a set field goes into a builder as a condition under the declared key.

**The fault that comes first in the order of the fields is the answer**, whether the tag or the
builder finds it: a bad tag does not displace an earlier fault of the builder.

* `Options` — the two switches.
* `Options.compile` — a record under given options; `compile` is the one with the usual options.
-/

namespace RecordQuery

/-- How strictly a record is compiled. -/
structure Options where
  /-- whether the tags of unset fields are looked at -/
  validateUnset : Bool
  /-- whether the texts of `$regex` conditions must be usable patterns -/
  checkPatterns : Bool
  deriving DecidableEq, Repr

namespace Options

/-- The usual settings: all tags are looked at, patterns are not. -/
def standard : Options := ⟨true, false⟩

instance : Inhabited Options := ⟨standard⟩

/-- The diagnostic text. -/
def diagnostic (o : Options) : String :=
  "FilterCompiler \x7b validate_unset_fields: " ++ toString o.validateUnset ++ ", check_regex: "
    ++ toString o.checkPatterns ++ " \x7d"

variable [PatternJudge]

/-- Feeds the fields of a record into a builder. -/
def compileInto (o : Options) (b : Builder) : List Descriptor → Except Fault Document
  | [] => b.build
  | d :: ds =>
    if !o.validateUnset && d.field.isUnset then o.compileInto b ds
    else match Operator.ofTag? d.tag with
      | none => if b.isFailed then b.build else .error (.unsupportedTag d.tag d.key)
      | some op =>
        if d.field.isUnset then o.compileInto b ds
        else o.compileInto (b.add ⟨d.key, op, d.field.value⟩) ds

/-- **Compiles a record** into a document. -/
def compile (o : Options) (record : List Descriptor) : Except Fault Document :=
  o.compileInto (Builder.new.checkPatterns o.checkPatterns) record

end Options

/-- Compiles a record with the usual options. -/
def compile [PatternJudge] (record : List Descriptor) : Except Fault Document :=
  Options.standard.compile record

end RecordQuery

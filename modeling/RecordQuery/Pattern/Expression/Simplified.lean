import RecordQuery.Pattern.Expression

/-!
# Simplified expressions

Expressions are put together so that what is written in different ways is the same expression
where this is easy to see: a set with one character is a text, adjacent texts are one text,
alternatives between characters are a set, and what all branches begin with stands before them.

* `Expression.ofMembers`, `Expression.repeated`, `Expression.inSequence`,
  `Expression.amongBranches` — the simplified expressions of each kind.
-/

namespace RecordQuery.Pattern.Expression

/-- One character of a set, which is a text if there is only one. -/
def ofMembers : CodeRanges → Expression
  | [(first, last)] => if first = last then literal (Utf8.encode first) else oneOf [(first, last)]
  | s => oneOf s

/-- A repetition.  More than one round of what matches only the empty text is the same as one
round, no round at all is the empty text, and a single round is the body. -/
def repeated (body : Expression) (least : Nat) (most : Option Nat) (greedy : Bool) : Expression :=
  let (least, most) :=
    if body.matchesOnlyEmpty then (min least 1, some ((most.map (min 1)).getD 1))
    else (least, most)
  if most = some 0 then empty
  else if least = 1 ∧ most = some 1 then body
  else repetition body least most greedy

/-! ## Sequences -/

/-- The items of an expression in a sequence. -/
def items : Expression → List Expression
  | sequence items => items
  | e => [e]

/-- Drops empty texts and joins adjacent ones. -/
def joinLiterals : List Expression → List Expression
  | [] => []
  | e :: es =>
    match e, joinLiterals es with
    | empty, rest => rest
    | literal s, literal t :: rest => literal (s ++ t) :: rest
    | e, rest => e :: rest

/-- One expression after the other. -/
def inSequence (es : List Expression) : Expression :=
  match joinLiterals (es.flatMap items) with
  | [] => empty
  | [e] => e
  | es => sequence es

/-! ## Alternatives -/

/-- The branches of an expression among others. -/
def branches : Expression → List Expression
  | alternatives branches => branches
  | e => [e]

/-- The code of the character of which a text consists, if it is one character. -/
def singleCode? : Expression → Option Nat
  | literal bytes => Utf8.decode? bytes
  | _ => none

/-- The set, if one character of a set is what the expression matches. -/
def members? : Expression → Option CodeRanges
  | oneOf s => some s
  | _ => none

/-- What all branches begin with, if all are sequences. -/
def sharedItems : List Expression → List Expression
  | sequence items :: es => es.foldl (fun shared e =>
      match e with
      | sequence items => commonItems shared items
      | _ => []) items
  | _ => []

/-- One of several expressions.  Characters become a set, and so do sets.  What all branches begin
with is set before them; then each branch is smaller, so as many rounds as there are expressions
suffice. -/
def amongWithin : Nat → List Expression → Expression
  | 0, es => alternatives es
  | rounds + 1, es =>
    match es.flatMap branches with
    | [] => oneOf []
    | [e] => e
    | es =>
      match es.mapM singleCode? with
      | some codes => ofMembers (.ofRanges (codes.map fun code => (code, code)))
      | none =>
        match es.mapM members? with
        | some sets => ofMembers (.unionOf sets)
        | none =>
          match sharedItems es with
          | [] => alternatives es
          | shared =>
            let rests := es.map fun e => inSequence (e.items.drop shared.length)
            inSequence (shared ++ [amongWithin rounds rests])

/-- One of several expressions. -/
def amongBranches (es : List Expression) : Expression := amongWithin (sizes es + 1) es

end RecordQuery.Pattern.Expression

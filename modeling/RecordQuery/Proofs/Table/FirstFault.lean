import Mathlib.Data.List.Induction
import RecordQuery.Table

/-!
# The first fault of a declaration

Four loops are nested in the making of a table, over fields, attributes, clauses and, inside a
clause, the questions that are asked of it.  Each of them stops at the first thing that is wrong.
This file says what a declaration comes to without any loop that stops.

* `Clause.fault?`, `AttributeBody.fault?`, `Member.fault?`, `Declaration.fault?` — what is wrong
  with a thing taken by itself, from the inside to the outside.
* `Directive.ofClauses` — what clauses say together.  Of the keys and of the tags the last counts.
* **`Declaration.table_eq`** — the answer is the first fault, or else the rows of what the fields
  say.  Every statement about tables starts from here.
* `Declaration.refused_iff_first_fault` — which declarations are refused, and how.

The induction over clauses is on the last one.  Behind any run of fine clauses the reader is in the
state `Directive.ofClauses` of that run, and the next clause is taken up on top of it
(`Directive.read_eq`).  Whether it is refused does not depend on that state, which is why a `skip`
hides nothing.
-/

namespace RecordQuery

section

variable {α β ε : Type} {fault : Option ε} {x y : α} {e : ε}

lemma elim_eq_error_iff :
    fault.elim (.ok x) .error = (.error e : Except ε α) ↔ fault = some e := by
  cases fault <;> simp

lemma elim_eq_ok_iff :
    fault.elim (.ok x) .error = (.ok y : Except ε α) ↔ fault = none ∧ y = x := by
  cases fault <;> simp [eq_comm]

/-- A loop over items that fail each for itself answers with the first failure. -/
lemma mapM_eq_elim {f : α → Except ε β} {fault? : α → Option ε} {result : α → β}
    (h : ∀ x, f x = (fault? x).elim (.ok (result x)) .error) (xs : List α) :
    xs.mapM f = (xs.findSome? fault?).elim (.ok (xs.map result)) .error := by
  induction xs with
  | nil => rfl
  | cons x xs ih =>
      rw [List.mapM_cons, h, ih, List.findSome?_cons]
      cases fault? x with
      | some e => rfl
      | none => cases xs.findSome? fault? <;> rfl

end

lemma getLast?_filterMap_concat {α β : Type} (f : α → Option β) (xs : List α) (x : α) :
    ((xs ++ [x]).filterMap f).getLast? = (f x).or (xs.filterMap f).getLast? := by
  rw [List.filterMap_append, List.getLast?_append]
  cases h : f x with
  | none => rw [List.filterMap_cons_none h, List.filterMap_nil, List.getLast?_nil]
  | some y => rw [List.filterMap_cons_some h, List.filterMap_nil, List.getLast?_singleton]

/-- The wording of a fault tells which one it is. -/
lemma DirectiveFault.message_injective {e e' : DirectiveFault} (h : e.message = e'.message) :
    e = e' := by
  cases e <;> cases e' <;> revert h <;> decide

/-! ## Clauses -/

namespace Clause

/-- **What is wrong with a clause.**  That an operand is no text is found out before anybody asks
what it is assigned to. -/
def fault? : Clause → Option DirectiveFault
  | .assignment _ (.expression _) => some .noStringLiteral
  | .assignment path (.text s) =>
    if path = "key" then if s = "" then some .emptyKey else none
    else if path = "op" then none
    else some .unknownName
  | .word path => if path = "skip" then none else some .unknownClause
  | .call _ _ => some .unknownClause

/-- The key that the clause declares. -/
def key? : Clause → Option String
  | .assignment path (.text s) => if path = "key" then some s else none
  | _ => none

/-- The operator tag that the clause declares. -/
def tag? : Clause → Option String
  | .assignment path (.text s) => if path = "op" then some s else none
  | _ => none

def isSkip (c : Clause) : Bool := c = .word "skip"

lemma key?_eq_some_iff {c : Clause} {s : String} :
    c.key? = some s ↔ c = .assignment "key" (.text s) := by
  cases c with
  | word path => simp [key?]
  | call path arguments => simp [key?]
  | assignment path operand => cases operand <;> simp [key?]

lemma fault?_eq_some_iff {c : Clause} {e : DirectiveFault} :
    c.fault? = some e ↔
      (∃ path source, c = .assignment path (.expression source) ∧ e = .noStringLiteral) ∨
      (c = .assignment "key" (.text "") ∧ e = .emptyKey) ∨
      (∃ path s, c = .assignment path (.text s) ∧ path ≠ "key" ∧ path ≠ "op" ∧ e = .unknownName) ∨
      ((∃ path, c = .word path ∧ path ≠ "skip") ∨ ∃ path arguments, c = .call path arguments) ∧
        e = .unknownClause := by
  cases c with
  | word path => by_cases h : path = "skip" <;> simp [fault?, h, eq_comm]
  | call path arguments => simp [fault?, eq_comm]
  | assignment path operand =>
      cases operand with
      | expression source => simp [fault?, eq_comm]
      | text s =>
          by_cases hkey : path = "key"
          · by_cases hs : s = "" <;> simp [fault?, hkey, hs, eq_comm]
          · by_cases hop : path = "op" <;> simp [fault?, hkey, hop, eq_comm]

end Clause

namespace Directive

/-- **What clauses say together**, be there faults among them or not. -/
def ofClauses (clauses : List Clause) : Directive :=
  ⟨(clauses.filterMap Clause.key?).getLast?, (clauses.filterMap Clause.tag?).getLast?,
    clauses.any Clause.isSkip⟩

/-- **Taking up a clause**: its fault, or else what it says counts before what was said. -/
lemma read_eq (a : Directive) (c : Clause) :
    a.read c
      = c.fault?.elim (.ok ⟨c.key?.or a.key, c.tag?.or a.tag, a.skip || c.isSkip⟩) .error := by
  cases c with
  | call path arguments => rfl
  | word path =>
      by_cases h : path = "skip"
      · simp [read, Clause.fault?, Clause.key?, Clause.tag?, Clause.isSkip, h]
      · simp [read, Clause.fault?, h]
  | assignment path operand =>
      cases operand with
      | expression source => simp [read, Clause.fault?]
      | text s =>
          by_cases hkey : path = "key"
          · by_cases hs : s = ""
            · simp [read, Clause.fault?, hkey, hs]
            · simp [read, Clause.fault?, Clause.key?, Clause.tag?, Clause.isSkip, hkey, hs]
          · by_cases hop : path = "op"
            · simp [read, Clause.fault?, Clause.key?, Clause.tag?, Clause.isSkip, hop]
            · simp [read, Clause.fault?, hkey, hop]

lemma ofClauses_concat (clauses : List Clause) (c : Clause) :
    ofClauses (clauses ++ [c]) = ⟨c.key?.or (ofClauses clauses).key,
      c.tag?.or (ofClauses clauses).tag, (ofClauses clauses).skip || c.isSkip⟩ := by
  simp only [ofClauses, getLast?_filterMap_concat, List.any_append, List.any_cons, List.any_nil,
    Bool.or_false]

/-- **Reading clauses**: the first fault, or else what they say. -/
theorem foldlM_read (clauses : List Clause) :
    clauses.foldlM read blank
      = (clauses.findSome? Clause.fault?).elim (.ok (ofClauses clauses)) .error := by
  induction clauses using List.reverseRecOn with
  | nil => rfl
  | append_singleton clauses c ih =>
      rw [List.foldlM_append, ih, List.findSome?_append, ofClauses_concat]
      cases clauses.findSome? Clause.fault? with
      | some e => rfl
      | none =>
          rw [Option.none_or, List.findSome?_singleton, ← read_eq]
          exact bind_pure ((ofClauses clauses).read c)

end Directive

/-! ## Directives -/

namespace AttributeBody

/-- **What is wrong with the body of a directive.** -/
def fault? : AttributeBody → Option DirectiveFault
  | .bare => some .missingArguments
  | .assigned => some .missingParentheses
  | .arguments args => args.clauses.findSome? Clause.fault?

def clauses : AttributeBody → List Clause
  | .arguments args => args.clauses
  | .bare | .assigned => []

lemma fault?_eq_some_iff {b : AttributeBody} {e : DirectiveFault} :
    b.fault? = some e ↔ (b = .bare ∧ e = .missingArguments) ∨
      (b = .assigned ∧ e = .missingParentheses) ∨
      ∃ args before c behind, b = .arguments args ∧ args.clauses = before ++ c :: behind ∧
        c.fault? = some e ∧ ∀ c' ∈ before, c'.fault? = none := by
  cases b with
  | bare => simp [fault?, eq_comm]
  | assigned => simp [fault?, eq_comm]
  | arguments args => simp [fault?, List.findSome?_eq_some_iff]

lemma fault?_arguments_eq_none_iff {args : Arguments} :
    (arguments args).fault? = none ↔ ∀ c ∈ args.clauses, c.fault? = none :=
  List.findSome?_eq_none_iff

end AttributeBody

namespace Attribute

def isDirective (a : Attribute) : Bool := a.path = Directive.path

lemma isDirective_iff {a : Attribute} : a.isDirective = true ↔ a.path = "filter" :=
  decide_eq_true_iff

lemma isDirective_eq_false_iff {a : Attribute} : a.isDirective = false ↔ a.path ≠ "filter" :=
  decide_eq_false_iff_not

end Attribute

namespace Directive

lemma ofBody_eq (b : AttributeBody) :
    ofBody b = b.fault?.elim (.ok (ofClauses b.clauses)) .error := by
  cases b with
  | bare | assigned => rfl
  | arguments args => exact foldlM_read args.clauses

/-- **Other attributes say nothing**, wherever they stand and whatever has been found before. -/
lemma ofAttributesAfter_filter (found : Option Directive) (attributes : List Attribute) :
    ofAttributesAfter found (attributes.filter (·.isDirective))
      = ofAttributesAfter found attributes := by
  induction attributes generalizing found with
  | nil => rfl
  | cons a attributes ih =>
      by_cases h : a.path = path
      · rw [List.filter_cons_of_pos (by simp [Attribute.isDirective, h])]
        simp only [ofAttributesAfter, ih]
      · rw [List.filter_cons_of_neg (by simp [Attribute.isDirective, h]), ih]
        simp only [ofAttributesAfter, if_neg h]

end Directive

/-- The row of the field with the given name, none if it is skipped. -/
def Directive.row? (a : Directive) (name : String) : Option Row :=
  if a.skip then none else some ⟨name, a.key.getD name, a.tag.getD "", name⟩

/-! ## Fields -/

namespace Member

/-- **What the field declares.**  A field without directive declares nothing. -/
def directive (m : Member) : Except DirectiveFault Directive :=
  return (← Directive.ofAttributes m.attributes).getD .blank

/-- The row of the field, none if it is skipped or has a bad directive. -/
def declared? (m : Member) : Option Row := m.directive.toOption.bind (·.row? m.name)

/-- The directives of the field.  There ought to be one at most. -/
def directives (m : Member) : List Attribute := m.attributes.filter (·.isDirective)

/-- The clauses of its directives. -/
def clauses (m : Member) : List Clause := m.directives.flatMap (·.body.clauses)

/-- **What is wrong with a field.**  Its first directive is judged by what it says, and a second one
is a fault whatever it says. -/
def fault? (m : Member) : Option DirectiveFault :=
  match m.directives with
  | [] => none
  | a :: others => a.body.fault?.or (if others.isEmpty then none else some .duplicate)

/-- **What the field declares**: its fault, or else what its clauses say. -/
theorem directive_eq (m : Member) :
    m.directive = m.fault?.elim (.ok (.ofClauses m.clauses)) .error := by
  have hpath : ∀ a ∈ m.directives, a.path = Directive.path := by
    intro a ha
    exact of_decide_eq_true (List.mem_filter.mp ha).2
  rw [directive, Directive.ofAttributes, ← Directive.ofAttributesAfter_filter, fault?, clauses]
  change (Directive.ofAttributesAfter none m.directives >>= _) = _
  cases hdirectives : m.directives with
  | nil => rfl
  | cons a others =>
      rw [hdirectives] at hpath
      obtain ⟨ha, hothers⟩ := List.forall_mem_cons.mp hpath
      rw [Directive.ofAttributesAfter, if_pos ha, Directive.ofBody_eq]
      dsimp only
      cases a.body.fault? with
      | some e => rfl
      | none =>
          cases others with
          | nil => rw [List.flatMap_singleton]; rfl
          | cons b more =>
              have hb : b.path = Directive.path := hothers b List.mem_cons_self
              simp [Directive.ofAttributesAfter, hb, bind, Except.bind]

lemma declared?_of_directive {m : Member} {a : Directive} (h : m.directive = .ok a) :
    m.declared? = a.row? m.name := by
  rw [declared?, h]
  rfl

lemma row?_eq (m : Member) : m.row? = m.fault?.elim (.ok m.declared?) .error := by
  have hrow : m.row? = m.directive.map (·.row? m.name) := by
    rw [row?, directive]
    cases Directive.ofAttributes m.attributes <;> rfl
  rw [hrow, declared?, directive_eq]
  cases m.fault? <;> rfl

/-- **Where the walk over the attributes of a field stops.**  It stops at its first directive if
that is bad, and else at its second one. -/
lemma fault?_eq_some_iff {m : Member} {e : DirectiveFault} :
    m.fault? = some e ↔ ∃ before a behind, m.attributes = before ++ a :: behind ∧
      a.isDirective = true ∧
      (((∀ a' ∈ before, a'.isDirective = false) ∧ a.body.fault? = some e) ∨
        (e = .duplicate ∧ ∃ a', before.filter (·.isDirective) = [a'] ∧ a'.body.fault? = none)) := by
  constructor
  · intro h
    cases hdirectives : m.directives with
    | nil => simp [fault?, hdirectives] at h
    | cons a others =>
        simp only [fault?, hdirectives] at h
        obtain ⟨before, behind, hsplit, hbefore, ha, hbehind⟩ :=
          List.filter_eq_cons_iff.mp hdirectives
        cases hbody : a.body.fault? with
        | some e' =>
            simp only [hbody, Option.some_or, Option.some.injEq] at h
            subst h
            refine ⟨before, a, behind, hsplit, ha, .inl ⟨?_, hbody⟩⟩
            simpa using hbefore
        | none =>
            cases others with
            | nil => simp [hbody] at h
            | cons b more =>
                obtain ⟨between, behind', hsplit', hbetween, hb, _⟩ :=
                  List.filter_eq_cons_iff.mp hbehind
                refine ⟨before ++ a :: between, b, behind', ?_, hb, .inr ⟨?_, a, ?_, hbody⟩⟩
                · simp [hsplit, hsplit']
                · simpa [hbody, eq_comm] using h
                · rw [List.filter_append, List.filter_cons_of_pos ha,
                    List.filter_eq_nil_iff.mpr hbefore, List.filter_eq_nil_iff.mpr hbetween,
                    List.nil_append]
  · rintro ⟨before, a, behind, hsplit, ha, h⟩
    have hdirectives : m.directives
        = before.filter (·.isDirective) ++ a :: behind.filter (·.isDirective) := by
      rw [directives, hsplit, List.filter_append, List.filter_cons_of_pos ha]
    rcases h with ⟨hbefore, hbody⟩ | ⟨rfl, a', ha', hbody⟩
    · have hnone : before.filter (·.isDirective) = [] :=
        List.filter_eq_nil_iff.mpr fun a' h => by simp [hbefore a' h]
      simp [fault?, hdirectives, hnone, hbody]
    · simp [fault?, hdirectives, ha', hbody]

/-- A field is fine iff it has one directive at most, which is fine. -/
lemma fault?_eq_none_iff {m : Member} :
    m.fault? = none ↔ m.directives.length ≤ 1 ∧ ∀ a ∈ m.directives, a.body.fault? = none := by
  rw [fault?]
  cases m.directives with
  | nil => simp
  | cons a others =>
      cases others with
      | nil => simp
      | cons b more => simp

/-- Of the body of an attribute nothing but its fault counts. -/
lemma fault?_replace {b b' : AttributeBody} (h : b.fault? = b'.fault?) (name path : String)
    (before behind : List Attribute) :
    (⟨name, before ++ ⟨path, b⟩ :: behind⟩ : Member).fault?
      = (⟨name, before ++ ⟨path, b'⟩ :: behind⟩ : Member).fault? := by
  simp only [fault?, directives, List.filter_append]
  by_cases hpath : path = Directive.path
  · rw [List.filter_cons_of_pos (by simp [Attribute.isDirective, hpath]),
      List.filter_cons_of_pos (by simp [Attribute.isDirective, hpath])]
    cases before.filter (·.isDirective) with
    | nil => simp only [List.nil_append, h]
    | cons a others => simp
  · rw [List.filter_cons_of_neg (by simp [Attribute.isDirective, hpath]),
      List.filter_cons_of_neg (by simp [Attribute.isDirective, hpath])]

end Member

/-! ## Declarations -/

namespace Declaration

/-- **What is wrong with a declaration.** -/
def fault? (d : Declaration) : Option DirectiveFault :=
  if d.shape = .namedFields then d.members.findSome? Member.fault? else some .noNamedFields

lemma fault?_eq_none_iff {d : Declaration} :
    d.fault? = none ↔ d.shape = .namedFields ∧ ∀ m ∈ d.members, m.fault? = none := by
  rw [fault?]
  by_cases h : d.shape = .namedFields <;> simp [h]

/-- **The table of a declaration**: its first fault, or else the rows of its fields. -/
theorem table_eq (d : Declaration) :
    d.table = d.fault?.elim (.ok (d.members.filterMap Member.declared?)) .error := by
  obtain ⟨shape, members⟩ := d
  cases shape with
  | namedFields =>
      rw [table, fault?, if_pos rfl, mapM_eq_elim Member.row?_eq]
      cases members.findSome? Member.fault? with
      | some e => rfl
      | none =>
          change (Except.ok _ : Except DirectiveFault (List Row)) = .ok _
          rw [List.filterMap_map]
          rfl
  | tuple | unit | enumeration | union => rfl

lemma table_eq_error_iff {d : Declaration} {e : DirectiveFault} :
    d.table = .error e ↔ d.fault? = some e := by
  rw [table_eq, elim_eq_error_iff]

lemma exists_table_iff {d : Declaration} : (∃ rows, d.table = .ok rows) ↔ d.fault? = none := by
  simp only [table_eq, elim_eq_ok_iff, exists_and_left, exists_eq, and_true]

/-- **Which declarations are refused, and how.**

1. A declaration is refused iff it is not a structure with named fields or one of its fields is at
   fault.
2. The kind is judged first; otherwise the fault is that of the first field at fault.
3. The walk over the attributes of a field passes over those with another path than `filter`.  It
   stops at the first one with this path if its body is bad, and else at the second one, whatever
   that says.
4. A body must be clauses in parentheses, and then its first bad clause decides.
5. A clause is bad if its operand is no string literal, whatever the name is; if it is an empty key;
   if it is a text for another name; or if it is neither `skip` nor an assignment.
6. A `skip` hides nothing: without it the field has the same fault, wherever it stood.
7. The wording of a fault tells which one it is; the faults of clauses are worded as it says. -/
theorem refused_iff_first_fault (d : Declaration) :
    ((∃ e, d.table = .error e) ↔
      d.shape ≠ .namedFields ∨ ∃ m ∈ d.members, ∃ e, m.fault? = some e) ∧
    (∀ e, d.table = .error e ↔
      (d.shape ≠ .namedFields ∧ e = .noNamedFields) ∨
      (d.shape = .namedFields ∧ ∃ before m behind, d.members = before ++ m :: behind ∧
        m.fault? = some e ∧ ∀ m' ∈ before, m'.fault? = none)) ∧
    (∀ (m : Member) e, m.fault? = some e ↔
      ∃ before a behind, m.attributes = before ++ a :: behind ∧ a.path = "filter" ∧
        (((∀ a' ∈ before, a'.path ≠ "filter") ∧ a.body.fault? = some e) ∨
          (e = .duplicate ∧
            ∃ a', before.filter (·.path = "filter") = [a'] ∧ a'.body.fault? = none))) ∧
    (∀ (b : AttributeBody) e, b.fault? = some e ↔ (b = .bare ∧ e = .missingArguments) ∨
      (b = .assigned ∧ e = .missingParentheses) ∨
      ∃ args before c behind, b = .arguments args ∧ args.clauses = before ++ c :: behind ∧
        c.fault? = some e ∧ ∀ c' ∈ before, c'.fault? = none) ∧
    (∀ (c : Clause) e, c.fault? = some e ↔
      (∃ path source, c = .assignment path (.expression source) ∧ e = .noStringLiteral) ∨
      (c = .assignment "key" (.text "") ∧ e = .emptyKey) ∨
      (∃ path s, c = .assignment path (.text s) ∧ path ≠ "key" ∧ path ≠ "op" ∧ e = .unknownName) ∨
      ((∃ path, c = .word path ∧ path ≠ "skip") ∨ ∃ path arguments, c = .call path arguments) ∧
        e = .unknownClause) ∧
    (∀ name before path clauses clauses' behind (args args' : Arguments),
      args.clauses = clauses ++ .word "skip" :: clauses' → args'.clauses = clauses ++ clauses' →
      (⟨name, before ++ ⟨path, .arguments args⟩ :: behind⟩ : Member).fault?
        = (⟨name, before ++ ⟨path, .arguments args'⟩ :: behind⟩ : Member).fault?) ∧
    (∀ e e' : DirectiveFault, e.message = e'.message ↔ e = e') ∧
    DirectiveFault.noStringLiteral.message = "expected a string literal" ∧
    DirectiveFault.emptyKey.message = "key must not be empty" ∧
    DirectiveFault.unknownName.message = "unknown attribute. Expected: key or op" ∧
    DirectiveFault.unknownClause.message
      = "unknown filter attribute. Expected: key = \"...\", op = \"...\", or skip" := by
  have hanswer : ∀ e, d.table = .error e ↔ (d.shape ≠ .namedFields ∧ e = .noNamedFields) ∨
      (d.shape = .namedFields ∧ ∃ before m behind, d.members = before ++ m :: behind ∧
        m.fault? = some e ∧ ∀ m' ∈ before, m'.fault? = none) := by
    intro e
    rw [table_eq_error_iff, fault?, ← List.findSome?_eq_some_iff]
    by_cases hshape : d.shape = .namedFields <;> simp [hshape, eq_comm]
  refine ⟨?refused, hanswer, ?walk, fun b e => AttributeBody.fault?_eq_some_iff,
    fun c e => Clause.fault?_eq_some_iff, ?skip,
    fun e e' => ⟨DirectiveFault.message_injective, fun h => by rw [h]⟩, rfl, rfl, rfl, rfl⟩
  case refused =>
    simp only [table_eq_error_iff, fault?]
    by_cases hshape : d.shape = .namedFields
    · simp only [hshape, if_true, ne_eq, not_true_eq_false, false_or, ← Option.isSome_iff_exists]
      exact List.findSome?_isSome_iff
    · simp [hshape]
  case walk =>
    intro m e
    have hwalk := @Member.fault?_eq_some_iff m e
    simp only [Attribute.isDirective_iff, Attribute.isDirective_eq_false_iff] at hwalk
    exact hwalk
  case skip =>
    intro name before path clauses clauses' behind args args' hargs hargs'
    refine Member.fault?_replace ?_ name path before behind
    have hfine : (Clause.word "skip").fault? = none := rfl
    simp only [AttributeBody.fault?, hargs, hargs', List.findSome?_append, List.findSome?_cons,
      hfine]

/-- A `skip` does not save a field, and the fault of the field below is not asked for. -/
example : (⟨.namedFields, [⟨"plain", []⟩,
    ⟨"page", [⟨"doc", .assigned⟩, ⟨"filter",
      .arguments ⟨[.word "skip", .assignment "limit" (.expression "5")], false, nofun⟩⟩]⟩,
    ⟨"least", [⟨"filter", .bare⟩]⟩]⟩ : Declaration).table = .error .noStringLiteral := rfl

end Declaration

end RecordQuery

import RecordQuery.Proofs.Json.Parts
import RecordQuery.Proofs.Json.Token

/-!
# Reading JSON text

A reader goes through the tokens of a text and keeps a stack of the containers that it is in.
Nesting of any depth is as good as none, blanks between tokens are skipped, and names may be
repeated: what the reader finds is all there, nothing is merged.

* `Json.Frame`, `Json.State` — the containers around the reader and what it waits for.
* `Json.State.step?` — the effect of one token, if it is allowed there.
* `Json.read` — the tree of a text, if it is JSON.
* **`Json.read_render`** — the tree of a rendered tree is that tree, if there is no
  floating-point number in it.

The induction is on the tree, with the stack and the text behind it left open (`Json.run_render`).
What is asked of the state is only that it takes a tree (`Json.State.Takes`), because an array
waits for its first item in a different state from the one in which it waits for the others.
-/

namespace RecordQuery.Json

/-- A container that the reader is in, with what stands in it before. -/
inductive Frame
  /-- an array, at an item -/
  | item (before : List Json)
  /-- an object, at the value of a member -/
  | member (before : List (String × Json)) (name : String)

/-- What the reader waits for, and the containers that it is in, from the inside. -/
inductive State
  /-- a tree -/
  | value (around : List Frame)
  /-- the first item of an array, or its end -/
  | openedArray (around : List Frame)
  /-- the first name of an object, or its end -/
  | openedObject (around : List Frame)
  /-- a further name of an object -/
  | furtherName (before : List (String × Json)) (around : List Frame)
  /-- the colon behind a name -/
  | colon (before : List (String × Json)) (name : String) (around : List Frame)
  /-- what follows a tree that is complete -/
  | done (j : Json) (around : List Frame)

namespace State

/-- The effect of the first token of a tree. -/
def begin? (around : List Frame) : Token → Option State
  | .text s => some (.done (.string s) around)
  | .word j => some (.done j around)
  | .openArray => some (.openedArray around)
  | .openObject => some (.openedObject around)
  | _ => none

/-- **The effect of a token**, if it is allowed. -/
def step? : State → Token → Option State
  | value around, t => begin? around t
  | openedArray around, .closeArray => some (.done (.array []) around)
  | openedArray around, t => begin? (.item [] :: around) t
  | openedObject around, .closeObject => some (.done (.object []) around)
  | openedObject around, .text s => some (.colon [] s around)
  | furtherName before around, .text s => some (.colon before s around)
  | colon before name around, .colon => some (.value (.member before name :: around))
  | done j (.item before :: around), .comma => some (.value (.item (before ++ [j]) :: around))
  | done j (.item before :: around), .closeArray =>
    some (.done (.array (before ++ [j])) around)
  | done j (.member before name :: around), .comma =>
    some (.furtherName (before ++ [(name, j)]) around)
  | done j (.member before name :: around), .closeObject =>
    some (.done (.object (before ++ [(name, j)])) around)
  | _, _ => none

/-- **The state takes a tree** into the containers.  The end of an array is not the beginning of
a tree. -/
def Takes (s : State) (around : List Frame) : Prop :=
  ∀ t, t ≠ .closeArray → s.step? t = begin? around t

lemma takes_value (around : List Frame) : (value around).Takes around := fun _ _ => rfl

lemma takes_openedArray (around : List Frame) :
    (openedArray around).Takes (.item [] :: around) := by
  intro t ht
  cases t with
  | closeArray => exact absurd rfl ht
  | _ => rfl

end State

variable (rounding : Bool → Decimal → Binary64)

/-- Goes through a text. -/
def run (s : State) (text : List Char) : Option State :=
  match text with
  | [] => some s
  | c :: rest =>
    if isSpace c then run s rest
    else
      match _h : readToken rounding (c :: rest) with
      | none => none
      | some (t, behind) =>
        (s.step? t).bind fun s => run s behind
termination_by text.length
decreasing_by
  · exact Nat.lt_succ_self _
  · exact length_lt_of_readToken rounding _h

/-- **The tree of a JSON text.** -/
def read (text : String) : Option Json :=
  match run rounding (.value []) text.toList with
  | some (.done j []) => some j
  | _ => none

/-! ## One token -/

lemma run_token {c : Char} {text behind : List Char} {t : Token} (hspace : isSpace c = false)
    (h : readToken rounding (c :: text) = some (t, behind)) (s : State) :
    run rounding s (c :: text) = (s.step? t).bind fun s => run rounding s behind := by
  rw [run, hspace, if_neg Bool.false_ne_true]
  split
  · next hnone =>
    rw [h] at hnone
    contradiction
  · next t' behind' hsome =>
    rw [h] at hsome
    obtain ⟨rfl, rfl⟩ := Prod.mk.inj (Option.some.inj hsome)
    rfl

lemma run_mark {c : Char} {t : Token} (h : mark? c = some t) (s : State) (text : List Char) :
    run rounding s (c :: text) = (s.step? t).bind fun s => run rounding s text := by
  have hspace : isSpace c = false := by
    rw [isSpace]
    refine Bool.eq_false_iff.mpr fun hblank => ?_
    have hnone : mark? c = none := by
      simp only [Bool.or_eq_true, decide_eq_true_eq] at hblank
      obtain ((rfl | rfl) | rfl) | rfl := hblank <;> rfl
    rw [hnone] at h
    contradiction
  refine run_token rounding hspace ?_ s
  rw [readToken, h]

lemma run_quoteJson (name : String) (s : State) (text : List Char) :
    run rounding s ((Text.quoteJson name).toList ++ text)
      = (s.step? (.text name)).bind fun s => run rounding s text := by
  have htoken := readToken_quoteJson rounding name text
  rw [Text.quoteJson, Text.toList_quoteWith] at *
  exact run_token rounding rfl htoken s

lemma run_word {w text : List Char} {j : Json} (hw : word? rounding w = some j) (hne : w ≠ [])
    (hword : ∀ c ∈ w, isWord c = true) (hbehind : ∀ c ∈ text.head?, isWord c = false)
    (s : State) :
    run rounding s (w ++ text) = (s.step? (.word j)).bind fun s => run rounding s text := by
  have htoken := readToken_word rounding hw hne hword hbehind
  cases w with
  | nil => exact absurd rfl hne
  | cons c w =>
      refine run_token rounding ?_ htoken s
      have hc := hword c List.mem_cons_self
      rw [isWord, Bool.and_eq_true, Bool.and_eq_true, Bool.not_eq_true'] at hc
      exact hc.1.1

/-! ## Containers -/

/-- The texts of what follows in a container, each behind a comma. -/
def furtherTexts (others : List String) : List Char := others.flatMap fun s => ',' :: s.toList

@[simp] lemma furtherTexts_nil : furtherTexts [] = [] := rfl

@[simp] lemma furtherTexts_cons (s : String) (others : List String) :
    furtherTexts (s :: others) = ',' :: s.toList ++ furtherTexts others := rfl

lemma toList_intercalate_comma (first : String) (others : List String) :
    (",".intercalate (first :: others)).toList = first.toList ++ furtherTexts others := by
  rw [String.toList_intercalate, List.map_cons]
  induction others generalizing first with
  | nil => simp
  | cons second others ih =>
      rw [List.map_cons, List.intercalate_cons_cons, ih, furtherTexts_cons]
      simp

/-- The text does not go on with a word before it. -/
def Parted (text : List Char) : Prop := ∀ c ∈ text.head?, isWord c = false

/-- Neither a comma nor what closes a container belongs to a word. -/
lemma parted_furtherTexts (others : List String) {c : Char} (h : isWord c = false)
    (text : List Char) : Parted (furtherTexts others ++ c :: text) := by
  intro c' hc'
  cases others with
  | nil =>
      obtain rfl := Option.some.inj hc'
      exact h
  | cons s others =>
      obtain rfl := Option.some.inj hc'
      rfl

/-- **The text of the tree is read back**, in any state that takes a tree and with any text behind
it. -/
def ReadBack (j : Json) : Prop :=
  ∀ s around text, State.Takes s around → Parted text →
    run rounding s (j.render.toList ++ text) = run rounding (.done j around) text

/-- From one item to the end of the array. -/
lemma run_items {items : List Json} (h : ∀ j ∈ items, ReadBack rounding j) (first : Json)
    (before : List Json) (around : List Frame) (text : List Char) :
    run rounding (.done first (.item before :: around))
        (furtherTexts (items.map render) ++ ']' :: text)
      = run rounding (.done (.array (before ++ first :: items)) around) text := by
  induction items generalizing first before with
  | nil => exact run_mark rounding (t := .closeArray) rfl _ text
  | cons j items ih =>
      have hparted := parted_furtherTexts (items.map render) (c := ']') rfl text
      have hj := h j List.mem_cons_self (.value (.item (before ++ [first]) :: around)) _ _
        (State.takes_value _) hparted
      -- behind the comma stands the next item, and behind that what the induction is about
      rw [List.map_cons, furtherTexts_cons, List.append_assoc, List.cons_append,
        run_mark rounding (t := .comma) rfl]
      simp only [State.step?, Option.bind_some]
      rw [hj, ih (fun k hk => h k (List.mem_cons_of_mem _ hk)), List.append_assoc,
        List.singleton_append]

lemma run_member {j : Json} (h : ReadBack rounding j) {s : State} {name : String}
    (before : List (String × Json)) (around : List Frame)
    (hs : s.step? (.text name) = some (.colon before name around)) {text : List Char}
    (hparted : Parted text) :
    run rounding s ((member name j.render).toList ++ text)
      = run rounding (.done j (.member before name :: around)) text := by
  have hj := h (.value (.member before name :: around)) _ text (State.takes_value _) hparted
  rw [member, String.toList_append, String.toList_append, List.append_assoc, List.append_assoc,
    run_quoteJson, hs, Option.bind_some]
  change run rounding _ (':' :: (j.render.toList ++ text)) = _
  rw [run_mark rounding (t := .colon) rfl]
  exact hj

/-- From one member to the end of the object. -/
lemma run_members {members : List (String × Json)} (h : ∀ m ∈ members, ReadBack rounding m.2)
    (first : Json) (name : String) (before : List (String × Json)) (around : List Frame)
    (text : List Char) :
    run rounding (.done first (.member before name :: around))
        (furtherTexts (members.map fun m => member m.1 m.2.render) ++ '\x7d' :: text)
      = run rounding (.done (.object (before ++ (name, first) :: members)) around) text := by
  induction members generalizing first name before with
  | nil => exact run_mark rounding (t := .closeObject) rfl _ text
  | cons m members ih =>
      have hparted := parted_furtherTexts (members.map fun m => member m.1 m.2.render)
        (c := '\x7d') rfl text
      rw [List.map_cons, furtherTexts_cons, List.append_assoc, List.cons_append,
        run_mark rounding (t := .comma) rfl]
      simp only [State.step?, Option.bind_some]
      rw [run_member rounding (h m List.mem_cons_self) _ _ rfl hparted,
        ih (fun k hk => h k (List.mem_cons_of_mem _ hk)), List.append_assoc,
        List.singleton_append]

lemma readBack_array {items : List Json} (h : ∀ j ∈ items, ReadBack rounding j) :
    ReadBack rounding (.array items) := by
  intro s around text hs hparted
  have hopen := run_mark rounding (c := '[') (t := .openArray) rfl s
  rw [hs .openArray nofun] at hopen
  rw [render, renderItems_eq_map, bracket, String.toList_append, String.toList_append,
    List.append_assoc, List.append_assoc]
  change run rounding s ('[' :: (_ ++ ']' :: text)) = _
  rw [hopen]
  cases items with
  | nil => exact run_mark rounding (t := .closeArray) rfl _ text
  | cons j items =>
      have hclose := parted_furtherTexts (items.map render) (c := ']') rfl text
      have hj := h j List.mem_cons_self (.openedArray around) _ _ (State.takes_openedArray _) hclose
      rw [List.map_cons, toList_intercalate_comma, List.append_assoc]
      simp only [State.begin?, Option.bind_some]
      rw [hj, run_items rounding (fun k hk => h k (List.mem_cons_of_mem _ hk)), List.nil_append]

lemma readBack_object {members : List (String × Json)}
    (h : ∀ m ∈ members, ReadBack rounding m.2) : ReadBack rounding (.object members) := by
  intro s around text hs hparted
  have hopen := run_mark rounding (c := '\x7b') (t := .openObject) rfl s
  rw [hs .openObject nofun] at hopen
  rw [render, renderMembers_eq_map, brace, String.toList_append, String.toList_append,
    List.append_assoc, List.append_assoc]
  change run rounding s ('\x7b' :: (_ ++ '\x7d' :: text)) = _
  rw [hopen]
  cases members with
  | nil => exact run_mark rounding (t := .closeObject) rfl _ text
  | cons m members =>
      have hclose := parted_furtherTexts (members.map fun m => member m.1 m.2.render)
        (c := '\x7d') rfl text
      rw [List.map_cons, toList_intercalate_comma, List.append_assoc]
      simp only [State.begin?, Option.bind_some]
      rw [run_member rounding (h m List.mem_cons_self) [] around rfl hclose,
        run_members rounding (fun k hk => h k (List.mem_cons_of_mem _ hk)), List.nil_append]

/-! ## Trees -/

lemma readBack_word {j : Json} (h : word? rounding j.render.toList = some j)
    (hne : j.render.toList ≠ []) (hword : j.render.toList.all isWord = true) :
    ReadBack rounding j := by
  intro s around text hs hparted
  rw [run_word rounding h hne (List.all_eq_true.mp hword) hparted, hs (.word j) nofun]
  rfl

/-- **Every tree without floating-point numbers is read back**, at any place in a text. -/
lemma run_render {j : Json} (h : j.FloatFree) : ReadBack rounding j := by
  induction j using induction_parts sizeOf_lt_of_mem_parts with
  | step j ih =>
  cases j with
  | null => exact readBack_word rounding rfl nofun rfl
  | boolean b =>
      cases b with
      | false => exact readBack_word rounding rfl nofun rfl
      | true => exact readBack_word rounding rfl nofun rfl
  | integer n =>
      have hne : (toString n).toList ≠ [] := by
        rw [toList_toString_int]
        exact List.append_ne_nil_of_right_ne_nil _ Nat.toDigits_ne_nil
      exact readBack_word rounding (word?_toString rounding n) hne
        (List.all_eq_true.mpr fun _ => isWord_of_mem_toString)
  | float x => exact absurd (.here _) (h x)
  | string name =>
      intro s around text hs _
      rw [render, run_quoteJson, hs (.text name) nofun]
      rfl
  | array items =>
      exact readBack_array rounding fun j hj => ih j hj (h.part hj)
  | object members =>
      refine readBack_object rounding fun m hm => ?_
      have hpart : m.2 ∈ parts (.object members) := List.mem_map_of_mem hm
      exact ih m.2 hpart (h.part hpart)

/-- **What is written is read back**, if there is no floating-point number in it. -/
theorem read_render {j : Json} (h : j.FloatFree) : read rounding j.render = some j := by
  have hrun := run_render rounding h (.value []) [] [] (State.takes_value _) nofun
  rw [List.append_nil] at hrun
  rw [read, hrun, run]

/-- Other JSON is read as well. -/
example : read rounding " [1 , -2]\n" = some (.array [.integer 1, .integer (-2)]) := by cbv

/-- What is no JSON is refused. -/
example : read rounding "[1,]" = none := by cbv

end RecordQuery.Json

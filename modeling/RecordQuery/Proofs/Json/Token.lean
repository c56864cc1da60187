import Mathlib.Data.List.TakeWhile
import RecordQuery.Json
import RecordQuery.Pattern.Scan

/-!
# The tokens of JSON text

JSON text is made of punctuation, strings and words, with blanks anywhere between them.  A *word* is
`null`, a truth value or a number.  This file reads one token after the other off any text, by the
full grammar: all escapes, surrogate pairs among them, and all notations of numbers.

* `Json.readText` — the rest of a string, up to its closing quotation mark.
* `Json.number?` — a number.  Whole numbers are exact; how a number with a fraction or an exponent
  is rounded to a double is left to whoever reads.
* `Json.readToken` — the first token of a text that does not begin with a blank.

Three lemmas say that what `Json.render` writes is read back, whatever stands behind it:
`readToken_quoteJson` for strings, one escaped character at a time (`readLetter_escapeJson`), and
`readToken_word` with `word?_toString` for numbers, which no word must follow immediately.
-/

namespace RecordQuery.Json

open Pattern (isHexDigit ofDigits)

/-! ## Strings -/

/-- A unit of UTF-16 in four hexadecimal digits. -/
def readUnit : List Char → Option (Nat × List Char)
  | a :: b :: c :: d :: rest =>
    if [a, b, c, d].all isHexDigit then some (ofDigits 16 [a, b, c, d], rest) else none
  | _ => none

/-- The character behind a backslash and a `u`.  A unit from the upper half of the surrogates must
be followed by one from the lower half, and together they are one character. -/
def readUnicode (s : List Char) : Option (Char × List Char) := do
  let (unit, rest) ← readUnit s
  if unit < 0xd800 ∨ 0xe000 ≤ unit then return (Char.ofNat unit, rest)
  if 0xdc00 ≤ unit then none
  match rest with
  | '\\' :: 'u' :: behind =>
    let (low, rest) ← readUnit behind
    if low < 0xdc00 ∨ 0xe000 ≤ low then none
    else return (Char.ofNat (0x10000 + 0x400 * (unit - 0xd800) + (low - 0xdc00)), rest)
  | _ => none

/-- What a single letter behind a backslash stands for. -/
def escaped? : Char → Option Char
  | '\"' => some '\"'
  | '\\' => some '\\'
  | '/' => some '/'
  | 'b' => some '\x08'
  | 'f' => some '\x0c'
  | 'n' => some '\n'
  | 'r' => some '\r'
  | 't' => some '\t'
  | _ => none

/-- The character behind a backslash. -/
def readEscape : List Char → Option (Char × List Char)
  | [] => none
  | 'u' :: rest => readUnicode rest
  | c :: rest => (escaped? c).map fun c => (c, rest)

/-- **One character of a string**, escaped or as it is. -/
def readLetter : List Char → Option (Char × List Char)
  | [] => none
  | c :: rest =>
    if c = '\\' then readEscape rest
    else if c.toNat < 0x20 then none
    else some (c, rest)

lemma length_lt_of_readUnit {s rest : List Char} {unit : Nat}
    (h : readUnit s = some (unit, rest)) : rest.length < s.length := by
  unfold readUnit at h
  split at h
  · split at h
    · obtain ⟨_, rfl⟩ := Prod.mk.inj (Option.some.inj h)
      simp only [List.length_cons]
      omega
    · contradiction
  · contradiction

lemma length_lt_of_readUnicode {s rest : List Char} {c : Char}
    (h : readUnicode s = some (c, rest)) : rest.length < s.length := by
  obtain ⟨⟨unit, behind⟩, hunit, h⟩ := Option.bind_eq_some_iff.mp h
  have hbehind := length_lt_of_readUnit hunit
  simp only at h
  split at h
  · obtain ⟨_, rfl⟩ := Prod.mk.inj (Option.some.inj h)
    exact hbehind
  · split at h
    · contradiction
    · split at h
      · obtain ⟨⟨low, behind'⟩, hlow, h⟩ := Option.bind_eq_some_iff.mp h
        have hlow' := length_lt_of_readUnit hlow
        simp only at h
        split at h
        · contradiction
        · obtain ⟨_, rfl⟩ := Prod.mk.inj (Option.some.inj h)
          simp only [List.length_cons] at hbehind
          omega
      · contradiction

lemma length_lt_of_readEscape {s rest : List Char} {c : Char}
    (h : readEscape s = some (c, rest)) : rest.length < s.length := by
  unfold readEscape at h
  split at h
  · contradiction
  · exact Nat.lt_succ_of_lt (length_lt_of_readUnicode h)
  · obtain ⟨_, _, h⟩ := Option.map_eq_some_iff.mp h
    obtain ⟨_, rfl⟩ := Prod.mk.inj h
    simp

lemma length_lt_of_readLetter {s rest : List Char} {c : Char}
    (h : readLetter s = some (c, rest)) : rest.length < s.length := by
  unfold readLetter at h
  split at h
  · contradiction
  · split at h
    · exact Nat.lt_succ_of_lt (length_lt_of_readEscape h)
    · split at h
      · contradiction
      · obtain ⟨_, rfl⟩ := Prod.mk.inj (Option.some.inj h)
        simp

/-- **The rest of a string**, behind its opening quotation mark. -/
def readText (s : List Char) : Option (List Char × List Char) :=
  if s.head? = some '\"' then some ([], s.tail)
  else
    match h : readLetter s with
    | none => none
    | some (c, rest) =>
      have := length_lt_of_readLetter h
      (readText rest).map fun (cs, behind) => (c :: cs, behind)
termination_by s.length

/-! ## Words -/

/-- A whole number without sign.  Only the number zero begins with a zero. -/
def whole? (ds : List Char) : Option Nat :=
  if ds.isEmpty || ds.head? = some '0' && ds ≠ ['0'] then none
  else some (Nat.ofDigitChars 10 ds 0)

/-- The digits behind a point, if there is one, and what follows them. -/
def readFraction : List Char → Option (List Char × List Char)
  | '.' :: rest =>
    let ds := rest.takeWhile Char.isDigit
    if ds.isEmpty then none else some (ds, rest.dropWhile Char.isDigit)
  | rest => some ([], rest)

/-- The exponent, which ends the number. -/
def exponent? : List Char → Option Int
  | [] => some 0
  | mark :: rest =>
    let (negative, ds) := match rest with
      | '-' :: ds => (true, ds)
      | '+' :: ds => (false, ds)
      | ds => (false, ds)
    if (mark = 'e' || mark = 'E') && !ds.isEmpty && ds.all Char.isDigit then
      let n : Int := Nat.ofDigitChars 10 ds 0
      some (if negative then -n else n)
    else none

variable (rounding : Bool → Decimal → Binary64)

/-- **A number.**  With neither fraction nor exponent it is a whole number. -/
def number? (s : List Char) : Option Json := do
  let negative := s.head? = some '-'
  let magnitude := if negative then s.tail else s
  let ds := magnitude.takeWhile Char.isDigit
  let n ← whole? ds
  match magnitude.dropWhile Char.isDigit with
  | [] => return .integer (if negative then -n else n)
  | rest =>
    let (fraction, rest) ← readFraction rest
    let exponent ← exponent? rest
    return .float (rounding negative
      ⟨Nat.ofDigitChars 10 (ds ++ fraction) 0, exponent - fraction.length⟩)

/-- **A word**: `null`, a truth value or a number. -/
def word? (s : List Char) : Option Json :=
  if s = ['n', 'u', 'l', 'l'] then some .null
  else if s = ['t', 'r', 'u', 'e'] then some (.boolean true)
  else if s = ['f', 'a', 'l', 's', 'e'] then some (.boolean false)
  else number? rounding s

/-! ## Tokens -/

/-- What JSON text is made of. -/
inductive Token
  | openArray
  | closeArray
  | openObject
  | closeObject
  | comma
  | colon
  /-- a string -/
  | text (s : String)
  /-- a word, as the tree that it is -/
  | word (j : Json)

/-- The punctuation. -/
def mark? : Char → Option Token
  | '[' => some .openArray
  | ']' => some .closeArray
  | '\x7b' => some .openObject
  | '\x7d' => some .closeObject
  | ',' => some .comma
  | ':' => some .colon
  | _ => none

/-- The characters that may stand between tokens. -/
def isSpace (c : Char) : Bool := c = ' ' || c = '\t' || c = '\n' || c = '\r'

/-- Whether a character belongs to a word.  A word goes on as long as it can. -/
def isWord (c : Char) : Bool := !isSpace c && c ≠ '\"' && (mark? c).isNone

/-- **The first token** of a text that does not begin with a blank. -/
def readToken (s : List Char) : Option (Token × List Char) :=
  match s with
  | [] => none
  | c :: rest =>
    match mark? c with
    | some t => some (t, rest)
    | none =>
      if c = '\"' then (readText rest).map fun (cs, behind) => (.text (.ofList cs), behind)
      else (word? rounding (c :: rest.takeWhile isWord)).map fun j =>
        (.word j, rest.dropWhile isWord)

lemma length_lt_of_readText {s cs rest : List Char} (h : readText s = some (cs, rest)) :
    rest.length < s.length := by
  induction hn : s.length using Nat.strongRecOn generalizing s cs with
  | ind n ih =>
    unfold readText at h
    split at h
    · next hhead =>
      obtain ⟨_, rfl⟩ := Prod.mk.inj (Option.some.inj h)
      cases s with
      | nil => simp at hhead
      | cons c s => simp [← hn]
    · split at h
      · contradiction
      · next c behind hletter =>
        obtain ⟨⟨cs', rest'⟩, htext, h⟩ := Option.map_eq_some_iff.mp h
        obtain ⟨_, rfl⟩ := Prod.mk.inj h
        have hbehind := length_lt_of_readLetter hletter
        exact Nat.lt_trans (ih _ (hn ▸ hbehind) htext rfl) (hn ▸ hbehind)

lemma length_lt_of_readToken {s rest : List Char} {t : Token}
    (h : readToken rounding s = some (t, rest)) : rest.length < s.length := by
  unfold readToken at h
  split at h
  · contradiction
  · split at h
    · obtain ⟨_, rfl⟩ := Prod.mk.inj (Option.some.inj h)
      simp
    · split at h
      · obtain ⟨⟨cs, behind⟩, htext, h⟩ := Option.map_eq_some_iff.mp h
        obtain ⟨_, rfl⟩ := Prod.mk.inj h
        exact Nat.lt_succ_of_lt (length_lt_of_readText htext)
      · obtain ⟨j, _, h⟩ := Option.map_eq_some_iff.mp h
        obtain ⟨_, rfl⟩ := Prod.mk.inj h
        exact Nat.lt_succ_of_le (List.dropWhile_suffix _).length_le

/-! ## What is written is read back -/

lemma hexDigit_digitChar {d : Nat} (h : d < 16) :
    isHexDigit d.digitChar = true ∧ Pattern.digitValue d.digitChar = d := by
  have hall : ∀ d < 16, isHexDigit d.digitChar = true ∧ Pattern.digitValue d.digitChar = d := by
    decide
  exact hall d h

lemma readUnit_digitChar {n : Nat} (h : n < 0x20) (rest : List Char) :
    readUnit ('0' :: '0' :: (n / 16).digitChar :: (n % 16).digitChar :: rest)
      = some (n, rest) := by
  obtain ⟨hhigh, hhighval⟩ := hexDigit_digitChar (d := n / 16) (by omega)
  obtain ⟨hlow, hlowval⟩ := hexDigit_digitChar (d := n % 16) (by omega)
  have hzero : isHexDigit '0' = true ∧ Pattern.digitValue '0' = 0 := by decide
  have hcode : ofDigits 16 ['0', '0', (n / 16).digitChar, (n % 16).digitChar] = n := by
    simp only [ofDigits, List.foldl_cons, List.foldl_nil, hzero.2, hhighval, hlowval]
    omega
  simp [readUnit, hzero.1, hhigh, hlow, hcode]

/-- **An escaped character is read back.** -/
lemma readLetter_escapeJson (c : Char) (rest : List Char) :
    readLetter (Text.escapeJson c ++ rest) = some (c, rest) := by
  unfold Text.escapeJson
  split
  iterate 7 rfl
  next _ hbackslash _ _ _ _ _ =>
  split
  · next hlow =>
    have hscalar : c.toNat < 0xd800 ∨ 0xe000 ≤ c.toNat := by omega
    simp [readLetter, readEscape, readUnicode, readUnit_digitChar hlow, hscalar]
  · next hhigh =>
    rw [List.singleton_append, readLetter, if_neg hbackslash, if_neg hhigh]

/-- A written character never looks like the end of the string. -/
lemma head?_escapeJson (c : Char) (rest : List Char) :
    (Text.escapeJson c ++ rest).head? ≠ some '\"' := by
  unfold Text.escapeJson
  split
  iterate 7 simp
  next hquote _ _ _ _ _ _ =>
  split
  · simp
  · simpa using hquote

/-- **A written string is read back**, whatever stands behind it. -/
lemma readText_flatMap (cs rest : List Char) :
    readText (cs.flatMap Text.escapeJson ++ '\"' :: rest) = some (cs, rest) := by
  induction cs with
  | nil =>
      rw [readText]
      rfl
  | cons c cs ih =>
      rw [List.flatMap_cons, List.append_assoc, readText, if_neg (head?_escapeJson c _)]
      split
      · next h =>
        rw [readLetter_escapeJson] at h
        contradiction
      · next h =>
        rw [readLetter_escapeJson] at h
        obtain ⟨rfl, rfl⟩ := Prod.mk.inj (Option.some.inj h)
        rw [ih, Option.map_some]

lemma readToken_quoteJson (s : String) (rest : List Char) :
    readToken rounding ((Text.quoteJson s).toList ++ rest) = some (.text s, rest) := by
  have hmark : mark? '\"' = none := rfl
  simp [Text.quoteJson, readToken, hmark, readText_flatMap]

/-- **A word is read back** if what stands behind it does not go on with it. -/
lemma readToken_word {w rest : List Char} {j : Json} (hw : word? rounding w = some j)
    (hne : w ≠ []) (hword : ∀ c ∈ w, isWord c = true)
    (hrest : ∀ c ∈ rest.head?, isWord c = false) :
    readToken rounding (w ++ rest) = some (.word j, rest) := by
  have htake : rest.takeWhile isWord = [] := by
    cases rest with
    | nil => rfl
    | cons c rest => exact List.takeWhile_cons_of_neg (by simp [hrest c rfl])
  have hdrop : rest.dropWhile isWord = rest := by
    cases rest with
    | nil => rfl
    | cons c rest => exact List.dropWhile_cons_of_neg (by simp [hrest c rfl])
  cases w with
  | nil => exact absurd rfl hne
  | cons c w =>
      have hc := hword c List.mem_cons_self
      have htail : ∀ c ∈ w, isWord c = true := fun c hc => hword c (List.mem_cons_of_mem _ hc)
      simp only [isWord, Bool.and_eq_true, Option.isNone_iff_eq_none, decide_eq_true_eq] at hc
      rw [List.cons_append, readToken, hc.2]
      simp only [if_neg hc.1.2, List.takeWhile_append_of_pos htail,
        List.dropWhile_append_of_pos htail, htake, hdrop, List.append_nil, hw, Option.map_some]

/-! ### Whole numbers -/

lemma head?_toDigits {n : Nat} (h : 0 < n) : (Nat.toDigits 10 n).head? ≠ some '0' := by
  induction n using Nat.strongRecOn with
  | ind n ih =>
  by_cases hn : n < 10
  · have hall : ∀ n < 10, 0 < n → n.digitChar ≠ '0' := by decide
    rw [Nat.toDigits_of_lt_base hn, List.head?_cons]
    exact fun heq => hall n hn h (Option.some.inj heq)
  · rw [Nat.toDigits_of_base_le (by decide) (by omega)]
    have hfirst := ih (n / 10) (by omega) (by omega)
    cases hds : Nat.toDigits 10 (n / 10) with
    | nil => exact absurd hds Nat.toDigits_ne_nil
    | cons d ds =>
        rw [hds] at hfirst
        exact hfirst

lemma whole?_toDigits (n : Nat) : whole? (Nat.toDigits 10 n) = some n := by
  have hhead : (Nat.toDigits 10 n).head? = some '0' → Nat.toDigits 10 n = ['0'] := by
    intro hzero
    rcases Nat.eq_zero_or_pos n with rfl | hpos
    · rfl
    · exact absurd hzero (head?_toDigits hpos)
  have hne : Nat.toDigits 10 n ≠ [] := Nat.toDigits_ne_nil
  simp only [whole?, Nat.ofDigitChars_ten_toDigits]
  refine if_neg ?_
  simpa [hne] using hhead

lemma toList_toString_int (n : Int) :
    (toString n).toList
      = (if n < 0 then ['-'] else []) ++ Nat.toDigits 10 n.natAbs := by
  cases n with
  | ofNat m =>
      have hpos : ¬ Int.ofNat m < 0 := by simp
      rw [if_neg hpos]
      change (Nat.repr m).toList = _
      simp [Nat.repr_eq_ofList_toDigits]
  | negSucc m =>
      rw [if_pos (Int.negSucc_lt_zero m)]
      change ("-" ++ Nat.repr (m + 1)).toList = _
      simp [Nat.repr_eq_ofList_toDigits]

lemma isWord_of_isDigit {c : Char} (h : c.isDigit = true) : isWord c = true := by
  have hmark : mark? c = none := by
    unfold mark?
    split
    iterate 6 exact absurd h (by decide)
    rfl
  have hne : ∀ d : Char, d.isDigit = false → c ≠ d := by
    rintro d hd rfl
    rw [h] at hd
    contradiction
  simp [isWord, isSpace, hmark, hne ' ' rfl, hne '\t' rfl, hne '\n' rfl, hne '\r' rfl,
    hne '\"' rfl]

lemma isWord_of_mem_toString {n : Int} {c : Char} (h : c ∈ (toString n).toList) :
    isWord c = true := by
  rw [toList_toString_int] at h
  rcases List.mem_append.mp h with h | h
  · split at h
    · obtain rfl := List.mem_singleton.mp h
      rfl
    · exact absurd h List.not_mem_nil
  · exact isWord_of_isDigit (Nat.isDigit_of_mem_toDigits (by decide) (by decide) h)

/-- **A whole number is read back.** -/
lemma number?_toString (n : Int) : number? rounding (toString n).toList = some (.integer n) := by
  have hdigits : ∀ c ∈ Nat.toDigits 10 n.natAbs, c.isDigit = true :=
    fun c hc => Nat.isDigit_of_mem_toDigits (by decide) (by decide) hc
  have htake := List.takeWhile_eq_self_iff.mpr hdigits
  have hdrop := List.dropWhile_eq_nil_iff.mpr hdigits
  rw [toList_toString_int]
  by_cases hn : n < 0
  · have hread : number? rounding ((if n < 0 then ['-'] else []) ++ Nat.toDigits 10 n.natAbs)
        = some (.integer (-(n.natAbs : Int))) := by
      simp [number?, hn, htake, hdrop, whole?_toDigits]
    have hneg : -(n.natAbs : Int) = n := by omega
    rw [hread, hneg]
  · have hhead : (Nat.toDigits 10 n.natAbs).head? ≠ some '-' := by
      intro hhead
      exact absurd (hdigits '-' (List.mem_of_head? hhead)) (by decide)
    have hread : number? rounding ((if n < 0 then ['-'] else []) ++ Nat.toDigits 10 n.natAbs)
        = some (.integer (n.natAbs : Int)) := by
      simp [number?, hn, hhead, htake, hdrop, whole?_toDigits]
    have habs : (n.natAbs : Int) = n := by omega
    rw [hread, habs]

lemma word?_toString (n : Int) : word? rounding (toString n).toList = some (.integer n) := by
  have hne : ∀ w, number? rounding w = none → (toString n).toList ≠ w := by
    rintro w hw rfl
    rw [number?_toString] at hw
    contradiction
  rw [word?, if_neg (hne _ rfl), if_neg (hne _ rfl), if_neg (hne _ rfl), number?_toString]

end RecordQuery.Json

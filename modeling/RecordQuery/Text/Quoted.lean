import RecordQuery.Text.Combining
import RecordQuery.Text.Unprintable

/-!
# Quoted text

Two ways to put a text between quotation marks.

* `Text.quoteJson` — a JSON string in its shortest usual form: the quotation mark, the backslash
  and the characters below U+0020 are escaped, everything else stands as it is, whatever the
  script.
* `Text.quoteDiagnostic` — for reading by people: characters that show nothing by themselves or
  that would combine with their neighbour are written by their code, in braces.

Both are a letter-by-letter map (`Text.quoteWith`), so a quotation never depends on more than one
character at a time.
-/

namespace RecordQuery.Text

/-- A text between quotation marks, each character replaced as `escape` says. -/
def quoteWith (escape : Char → List Char) (s : String) : String :=
  String.ofList ('\"' :: s.toList.flatMap escape ++ ['\"'])

@[simp] theorem toList_quoteWith (escape : Char → List Char) (s : String) :
    (quoteWith escape s).toList = '\"' :: s.toList.flatMap escape ++ ['\"'] := by
  simp [quoteWith]

/-- A character of a JSON string.  Five controls have a letter of their own, the other ones below
U+0020 are written with four hexadecimal digits. -/
def escapeJson (c : Char) : List Char :=
  match c with
  | '\"' => ['\\', '\"']
  | '\\' => ['\\', '\\']
  | '\x08' => ['\\', 'b']
  | '\x0c' => ['\\', 'f']
  | '\n' => ['\\', 'n']
  | '\r' => ['\\', 'r']
  | '\t' => ['\\', 't']
  | c =>
    if c.toNat < 0x20 then
      ['\\', 'u', '0', '0', Nat.digitChar (c.toNat / 16), Nat.digitChar (c.toNat % 16)]
    else [c]

/-- A text as a JSON string. -/
def quoteJson : String → String := quoteWith escapeJson

/-- A character written by its code, in as few hexadecimal digits as possible. -/
def escapeByCode (c : Char) : List Char :=
  ['\\', 'u', '\x7b'] ++ Nat.toDigits 16 c.toNat ++ ['\x7d']

/-- A character of a diagnostic quotation. -/
def escapeDiagnostic (c : Char) : List Char :=
  match c with
  | '\"' => ['\\', '\"']
  | '\\' => ['\\', '\\']
  | '\x00' => ['\\', '0']
  | '\n' => ['\\', 'n']
  | '\r' => ['\\', 'r']
  | '\t' => ['\\', 't']
  | c => if combining.contains c || unprintable.contains c then escapeByCode c else [c]

/-- A text as a diagnostic quotation. -/
def quoteDiagnostic : String → String := quoteWith escapeDiagnostic

end RecordQuery.Text

import LinkIndex.Text.Printable
import LinkIndex.Text.Utf8

/-!
Text between quotation marks, as it stands in messages and in the text of lists
and maps. Apostrophes are the marks, unless the text holds an apostrophe and no
quotation mark. What cannot be seen is written by an escape.
-/

namespace LinkIndex.Quoted

/-- Exactly `width` hexadecimal digits. -/
def hexDigits : Nat → Nat → List Char
  | 0, _ => []
  | width + 1, n => hexDigits width (n / 16) ++ [Utf8.hexDigit (n % 16)]

/-- The escape of a code point: two, four or eight digits, as many as it needs. -/
def escapeCode (n : Nat) : List Char :=
  if n < 0x100 then '\\' :: 'x' :: hexDigits 2 n
  else if n < 0x10000 then '\\' :: 'u' :: hexDigits 4 n
  else '\\' :: 'U' :: hexDigits 8 n

/-- A character between the marks `mark`. -/
def encodeChar (mark c : Char) : List Char :=
  if c = mark ∨ c = '\\' then ['\\', c]
  else if c = '\n' then ['\\', 'n']
  else if c = '\r' then ['\\', 'r']
  else if c = '\t' then ['\\', 't']
  else if isPrintable c then [c]
  else escapeCode c.toNat

/-- The mark that needs no escape, where there is one. -/
def mark (text : List Char) : Char :=
  if '\'' ∈ text ∧ '"' ∉ text then '"' else '\''

def encode (text : List Char) : List Char :=
  mark text :: text.flatMap (encodeChar (mark text)) ++ [mark text]

end LinkIndex.Quoted

namespace LinkIndex

def quoted (s : String) : String :=
  String.ofList (Quoted.encode s.toList)

end LinkIndex

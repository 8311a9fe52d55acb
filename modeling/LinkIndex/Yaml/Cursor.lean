import LinkIndex.Text.Blank

/-!
A place in a text: what is left of it, with the line and the column on which the
rest begins. Lines and columns count from zero.
-/

namespace LinkIndex.Yaml

structure Cursor where
  rest : List Char
  line : Nat := 0
  column : Nat := 0
  index : Nat := 0
  deriving DecidableEq, Repr

def isBreak (c : Char) : Bool :=
  c = '\n' || c = '\r' || c = '\x85' || c = '\u2028' || c = '\u2029'

/-- Whether a line ends before this character; the text itself ends before none. -/
def endsLine : Option Char → Bool
  | none => true
  | some c => c = '\n' || c = '\r' || c = '\x85'

def endsWord : Option Char → Bool
  | none => true
  | some c => endsLine (some c) || c = ' ' || c = '\t'

/-- Whether a header ends before this character: at a space or where a line breaks. -/
def endsHeader : Option Char → Bool
  | none => true
  | some c => c = ' ' || isBreak c

namespace Cursor

def peek (c : Cursor) : Option Char :=
  c.rest.head?

def peekAt (c : Cursor) (n : Nat) : Option Char :=
  (c.rest.drop n).head?

/-- Passes over one character. A byte order mark takes no column. -/
def step (c : Cursor) : Cursor :=
  match c.rest with
  | [] => c
  | ch :: rest =>
    if ch = '\n' ∨ (ch = '\r' ∧ rest.head? ≠ some '\n') then ⟨rest, c.line + 1, 0, c.index + 1⟩
    else ⟨rest, c.line, if ch = '\ufeff' then c.column else c.column + 1, c.index + 1⟩

def skip (c : Cursor) : Nat → Cursor
  | 0 => c
  | n + 1 => c.step.skip n

/-- The characters from here on that satisfy `p`, and the place behind them. -/
def takeWhile (p : Char → Bool) (c : Cursor) : List Char × Cursor :=
  let cs := c.rest.takeWhile p
  (cs, c.skip cs.length)

/-- Passes over the characters that satisfy `p`. -/
def skipWhile (p : Char → Bool) (c : Cursor) : Cursor :=
  (c.takeWhile p).2

/-- Passes over spaces as long as the column is below `indent`. -/
def skipIndent (indent : Nat) (c : Cursor) : Cursor :=
  c.skip (min (indent - c.column) (c.rest.takeWhile (· = ' ')).length)

/-- A line break, written as a line feed unless it is one of the separators of Unicode. -/
def lineBreak? (c : Cursor) : Option (Char × Cursor) :=
  match c.rest with
  | '\r' :: '\n' :: _ => some ('\n', c.skip 2)
  | ch :: _ =>
    if ch = '\n' ∨ ch = '\r' ∨ ch = '\x85' then some ('\n', c.step)
    else if isBreak ch then some (ch, c.step)
    else none
  | [] => none

/-- Whether `mark` stands here as a word of its own. -/
def atWord (mark : List Char) (c : Cursor) : Bool :=
  Text.startsWith mark c.rest && endsWord (c.peekAt mark.length)

/-- Whether a mark that parts documents stands here. -/
def atSeparator (c : Cursor) : Bool :=
  c.atWord ['-', '-', '-'] || c.atWord ['.', '.', '.']

end Cursor

end LinkIndex.Yaml

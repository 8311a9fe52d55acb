import LinkIndex.Text.Blank

/-!
Lines of Markdown and the containers they stand in. A line belongs to a container
if it begins with the mark of that container: an angle for a quotation, and for an
item of a list its bullet on the first line and as many columns of blank on the
others. Marks are looked for in the line with its tabs expanded.
-/

namespace LinkIndex.Markdown

/-- The lines of a text, each with the line feed that ends it. -/
def splitLines : List Char → List (List Char)
  | [] => []
  | c :: rest =>
    if c = '\n' then ['\n'] :: splitLines rest
    else match splitLines rest with
      | [] => [[c]]
      | line :: lines => (c :: line) :: lines

/-- The columns between two tab stops. -/
def tabWidth : Nat := 4

def nextStop (column : Nat) : Nat :=
  column + (tabWidth - column % tabWidth)

/-- A text that starts at a column, with its tabs as spaces. -/
def expandTabs (column : Nat) : List Char → List Char
  | [] => []
  | c :: rest =>
    if c = '\t' then
      List.replicate (nextStop column - column) ' ' ++ expandTabs (nextStop column) rest
    else c :: expandTabs (if c = '\n' then 0 else column + 1) rest

/-- What is left of a line behind a column, and how many columns of a tab are left over. -/
def behindColumn (target column : Nat) : List Char → List Char × Nat
  | [] => ([], 0)
  | c :: rest =>
    if target ≤ column then (c :: rest, column - target)
    else behindColumn target (if c = '\t' then nextStop column else column + 1) rest

/-- A container. An item knows the line on which it starts, and on that line the columns in
front of its bullet and those between the bullet and the text. -/
inductive Container
  | quote
  | item (line : Nat) (bullet : List Char) (indent gap : Nat)
  deriving DecidableEq, Repr

/-- The mark of an item on a line: the bullet, or blank of the same width. -/
def itemMark (line : Nat) (start : Nat) (bullet : List Char) (indent gap : Nat) : List Char :=
  if line = start then List.replicate indent ' ' ++ bullet ++ List.replicate gap ' '
  else List.replicate (bullet.length + indent + max gap 1) ' '

def isLineBlank (c : Char) : Bool :=
  isBlank c && c ≠ '\n'

/-- At most three spaces are passed over in front of a mark. -/
def dropIndent? (line : List Char) : Option (List Char) :=
  if (line.takeWhile (· = ' ')).length ≤ 3 then some (line.dropWhile (· = ' ')) else none

/-- The width of the marks of several containers at the start of a line without tabs. One blank
behind an angle belongs to it, unless the marks behind it need that blank. -/
def marksWidth? (number : Nat) : List Container → List Char → Option Nat
  | [], _ => some 0
  | .quote :: rest, line =>
    match dropIndent? line with
    | some ('>' :: text) =>
      let width := line.length - text.length
      let tight := (marksWidth? number rest text).map (width + ·)
      match text with
      | c :: text' =>
        if isLineBlank c then
          match marksWidth? number rest text' with
          | some n => some (width + 1 + n)
          | none => tight
        else tight
      | [] => tight
    | _ => none
  | .item start bullet indent gap :: rest, line =>
    let mark := itemMark number start bullet indent gap
    match Text.dropPrefix? mark line with
    | some text => (marksWidth? number rest text).map (mark.length + ·)
    | none => none

/-- A line as it looks where a blank line is taken to go on for ever. -/
def widened (line : List Char) : List Char :=
  match Text.dropSuffix? ['\n'] line with
  | some body => body ++ List.replicate 99 ' ' ++ ['\n']
  | none => line

/-- What is left of a line inside of several containers, if it belongs to them. A line that ends
before their marks do belongs to them if blank at its end would make it. -/
def inside? (containers : List Container) (number : Nat) (line : List Char) : Option (List Char) :=
  match marksWidth? number containers (expandTabs 0 line) with
  | some 0 => some line
  | some width => some (behindColumn width 0 line).1
  | none =>
    if (marksWidth? number containers (widened (expandTabs 0 line))).isSome ∧
        Text.endsWith ['\n'] line then some ['\n']
    else none

/-- The width of the indentation that makes code. -/
def codeIndent : Nat := 4

/-- What is left of a line of code inside of several containers. What a tab is wider than the
indentation stays as blank. -/
def codeInside? (containers : List Container) (number : Nat) (line : List Char) :
    Option (List Char) :=
  let expanded := expandTabs 0 line
  match marksWidth? number containers expanded with
  | none => none
  | some width =>
    if codeIndent ≤ ((expanded.drop width).takeWhile (· = ' ')).length then
      let (rest, excess) := behindColumn (width + codeIndent) 0 line
      some (List.replicate excess ' ' ++ rest)
    else none

/-- A place in a document: the number of the next line, and the lines from there on. -/
structure Place where
  number : Nat
  lines : List (List Char)
  deriving Repr

def Place.skip (p : Place) (n : Nat) : Place :=
  ⟨p.number + n, p.lines.drop n⟩

end LinkIndex.Markdown

import LinkIndex.Markdown.Line
import LinkIndex.Markdown.Markup
import LinkIndex.Markdown.Reference
import LinkIndex.Text.Letters

/-!
The blocks of Markdown, and the marks by which a line begins one of them. The lines
here are those inside of the containers, so their marks are gone.
-/

namespace LinkIndex.Markdown

/-- A block. The text of paragraphs and headings is not yet taken apart. -/
inductive Block
  | paragraph (body : List Char)
  | heading (level : Nat) (body : List Char)
  | thematicBreak
  | code (text : List Char)
  | markup (text : List Char)
  | definition (definition : Definition)
  | quote (blocks : List Block)
  | list (items : List (List Block))
  deriving Repr

instance : Inhabited Block := ⟨.thematicBreak⟩

def lineBody (line : List Char) : List Char :=
  line.takeWhile (· ≠ '\n')

def isBlankLine (line : List Char) : Bool :=
  Text.isBlankText line

/-- Three marks of one kind or more, with blanks between them. -/
def isThematicBreak (line : List Char) : Bool :=
  match dropIndent? (lineBody line) with
  | some (c :: rest) =>
    (c = '-' || c = '_' || c = '*') && rest.all (fun d => d = c || isBlank d) &&
      2 ≤ rest.count c
  | _ => false

/-- Whether a line makes a heading of the text above it. -/
def underline? (line : List Char) : Option Nat :=
  match dropIndent? (lineBody line) with
  | some (c :: rest) =>
    if (c = '=' ∨ c = '-') ∧ (rest.dropWhile (· = c)).all isBlank then
      some (if c = '=' then 1 else 2)
    else none
  | _ => none

/-- A heading without the number signs that may close it. They close it if a blank stands before
them. -/
def dropClosing (body : List Char) : List Char :=
  let body := Text.trimEndBy isBlank body
  let open_ := Text.trimEndBy (· = '#') body
  match open_.getLast? with
  | some c => if isBlank c then open_ else body
  | none => body

/-- A heading that is marked by number signs: its level and its text. -/
def heading? (line : List Char) : Option (Nat × List Char) :=
  match dropIndent? (lineBody line) with
  | some cs =>
    let level := (cs.takeWhile (· = '#')).length
    let rest := cs.drop level
    if level = 0 ∨ 6 < level then none
    else if rest = [] || rest.head?.any isBlank then
      some (level, Text.trim (dropClosing rest))
    else none
  | none => none

/-- The line that opens a fence: its indentation, and the run of marks that has to close it. -/
structure Fence where
  indent : Nat
  mark : Char
  length : Nat
  deriving DecidableEq, Repr

/-- The fence that a line opens. Behind backticks there are no further ones on the line. -/
def fence? (line : List Char) : Option Fence :=
  let body := lineBody line
  match dropIndent? body with
  | some (c :: rest) =>
    let length := (rest.takeWhile (· = c)).length + 1
    let info := rest.drop (length - 1)
    if (c = '`' ∨ c = '~') ∧ 3 ≤ length ∧ ¬ (c = '`' ∧ '`' ∈ info) then
      some ⟨body.length - (rest.length + 1), c, length⟩
    else none
  | _ => none

def Fence.isClosedBy (fence : Fence) (line : List Char) : Bool :=
  match dropIndent? (lineBody line) with
  | some cs =>
    fence.length ≤ (cs.takeWhile (· = fence.mark)).length &&
      (cs.dropWhile (· = fence.mark)).all isBlank
  | none => false

/-- A line inside of a fence, without the indentation of the fence. A line that is indented less
loses all blank at its start. -/
def Fence.content (fence : Fence) (line : List Char) : List Char :=
  let expanded := expandTabs 0 line
  let spaces := (expanded.takeWhile (· = ' ')).length
  if fence.indent = 0 then line
  else if fence.indent ≤ spaces then (behindColumn fence.indent 0 line).1
  else if isBlankLine line then line.drop (line.length - 1)
  else Text.trimStartBy isBlank line

/-- The mark of an item of a list: the bullet, the columns around it, and whether anything
follows it on its line. -/
structure Bullet where
  text : List Char
  indent : Nat
  gap : Nat
  hasContent : Bool
  deriving DecidableEq, Repr

namespace Bullet

/-- The sign of a bullet: that behind a number, or the bullet itself. -/
def sign (b : Bullet) : Option Char :=
  b.text.getLast?

def isNumbered (b : Bullet) : Bool :=
  1 < b.text.length

/-- Whether two items belong to one list. -/
def fits (b c : Bullet) : Bool :=
  b.isNumbered = c.isNumbered && b.sign = c.sign

/-- Whether an item may follow a text without a blank line: it must have content, and a number
must be one. -/
def interrupts (b : Bullet) : Bool :=
  (!b.isNumbered || b.text.dropLast = ['1']) && b.hasContent

end Bullet

def bulletText? : List Char → Option (List Char × List Char)
  | [] => none
  | c :: rest =>
    if c = '*' ∨ c = '-' ∨ c = '+' then some ([c], rest)
    else
      let digits := (c :: rest).takeWhile isDecimalDigit
      match (c :: rest).drop digits.length with
      | sign :: after =>
        if 1 ≤ digits.length ∧ digits.length ≤ 9 ∧ (sign = '.' ∨ sign = ')') then
          some (digits ++ [sign], after)
        else none
      | [] => none

/-- Characters that may follow a bullet. -/
def endsBullet (c : Char) : Bool :=
  c = ' ' || c = '\t' || c = '\n' || c = '\r' || c = '\x0c'

/-- The bullet of a line. Where more than four columns of blank follow it, all but one belong
to the content. -/
def bullet? (line : List Char) : Option Bullet :=
  match dropIndent? line with
  | none => none
  | some cs =>
    match bulletText? cs with
    | some (text, next :: _) =>
      if endsBullet next then
        let indent := line.length - cs.length
        let expanded := expandTabs 0 (Text.trimEndBy isBlank line)
        let tail := expanded.drop (indent + text.length)
        let gap := (tail.takeWhile isBlank).length
        some ⟨text, indent, if codeIndent < gap then 1 else gap, !tail.isEmpty⟩
      else none
    | _ => none

/-- Whether a line begins a quotation. -/
def isQuote (line : List Char) : Bool :=
  match dropIndent? line with
  | some ('>' :: _) => true
  | _ => false

def markup? (line : List Char) : Option MarkupEnd :=
  (dropIndent? line).bind markupBlock?

/-- Whether a line ends the paragraph above it. A lazy line stands outside of the containers of
the paragraph: any item of a list ends it there, and an underline is none. -/
def endsParagraph (isLazy : Bool) (line : List Char) : Bool :=
  if isQuote line || (heading? line).isSome || isBlankLine line || (fence? line).isSome then true
  else if (markup? line).any (· ≠ .blankLineApart) then true
  else if isThematicBreak line then isLazy || (underline? line).isNone
  else match bullet? line with
    | some b => isLazy || b.interrupts
    | none => false

/-- The text of a paragraph: its lines without the blank at their starts. -/
def paragraphBody (lines : List (List Char)) : List Char :=
  Text.trimEndBy (· = '\n') (lines.flatMap (Text.trimStartBy isBlank))

end LinkIndex.Markdown

import LinkIndex.Yaml.Cursor

/-!
Texts without marks. Such a text ends before a colon or a comment, and in lists
and maps with brackets before the marks of those. It may go on over several
lines, as long as they are indented; a single line break counts as a space, and
of several breaks the first is left out.
-/

namespace LinkIndex.Yaml

/-- The version of the language, as far as it makes a difference. -/
inductive Version
  | v1_1
  | v1_2
  | other (minor : Nat)
  deriving DecidableEq, Repr

/-- Whether a version is the older one, or comes before it. -/
def Version.isOld : Version → Bool
  | .v1_1 => true
  | .v1_2 => false
  | .other minor => minor = 0

namespace Plain

/-- Whether `c` ends a run of a plain text when `next` follows it. -/
def endsRun (version : Version) (inFlow : Bool) (c : Char) (next : Option Char) : Bool :=
  if c = ':' ∧ !endsWord next then false
  else if c = '?' ∧ version ≠ .v1_1 then false
  else endsWord (some c) || c = ':' || (inFlow && ",?[]\x7b\x7d".toList.contains c)

/-- The run of characters from here on. -/
def run (version : Version) (inFlow : Bool) : List Char → List Char
  | [] => []
  | c :: rest => if endsRun version inFlow c rest.head? then [] else c :: run version inFlow rest

/-- Blank lines after the first line break, up to a mark that parts documents. The flag tells
whether there is such a mark. -/
def blankLines : Nat → Cursor → List Char × Cursor × Bool
  | 0, c => ([], c, false)
  | fuel + 1, c =>
    match c.lineBreak? with
    | some (b, c) =>
      if c.atSeparator then ([b], c, true)
      else
        let (more, c, stop) := blankLines fuel c
        (b :: more, c, stop)
    | none => if c.peek = some ' ' then blankLines fuel c.step else ([], c, false)

structure Gap where
  /-- What the gap counts as; nothing where the text ends here. -/
  text : List Char
  brokeLine : Bool
  after : Cursor

def gap (c : Cursor) : Gap :=
  let (spaces, c) := c.takeWhile (· = ' ')
  match c.lineBreak? with
  | none => ⟨spaces, false, c⟩
  | some (b, c) =>
    if c.atSeparator then ⟨[], true, c⟩
    else
      let (breaks, c, stop) := blankLines (c.rest.length + 1) c
      if stop then ⟨[], true, c⟩
      else
        let first := if b ≠ '\n' then [b] else if breaks = [] then [' '] else []
        ⟨first ++ breaks, true, c⟩

/-- A plain text, the place behind it, and whether a line was broken just before that. -/
structure Read where
  text : List Char
  after : Cursor
  brokeLine : Bool

/-- Reads runs and gaps. `pending` is the gap in front of the next run. -/
def readRuns (version : Version) (inFlow : Bool) (indent : Int) :
    Nat → List Char → Bool → Cursor → Read
  | 0, _, broke, c => ⟨[], c, broke⟩
  | fuel + 1, pending, broke, c =>
    if c.peek = some '#' then ⟨[], c, broke⟩
    else match run version inFlow c.rest with
      | [] => ⟨[], c, broke⟩
      | cs =>
        let g := gap (c.skip cs.length)
        if g.text = [] ∨ g.after.peek = some '#' ∨ (!inFlow ∧ (g.after.column : Int) < indent) then
          ⟨pending ++ cs, g.after, g.brokeLine⟩
        else
          let more := readRuns version inFlow indent fuel g.text g.brokeLine g.after
          ⟨pending ++ cs ++ more.text, more.after, more.brokeLine⟩

/-- Reads a plain text; its further lines are indented by `indent` at least. -/
def read (version : Version) (inFlow : Bool) (indent : Int) (c : Cursor) : Read :=
  readRuns version inFlow indent (c.rest.length + 1) [] false c

end Plain

end LinkIndex.Yaml

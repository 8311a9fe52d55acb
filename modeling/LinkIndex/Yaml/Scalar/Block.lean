import LinkIndex.Yaml.Cursor
import LinkIndex.Yaml.Error

/-!
Texts that stand in lines of their own below a bar or an angle. Behind a bar the
line breaks are kept; behind an angle they are folded, except around lines that
are indented further. The header says how far the lines are indented and whether
the line breaks at the end count.
-/

namespace LinkIndex.Yaml.Block

inductive Chomp
  | strip
  | clip
  | keep
  deriving DecidableEq, Repr

structure Header where
  chomp : Chomp := .clip
  increment : Option Nat := none
  deriving DecidableEq, Repr

def chomp? : Option Char → Option Chomp
  | some '+' => some .keep
  | some '-' => some .strip
  | _ => none

def digit? : Option Char → Option Nat
  | some c => if '0' ≤ c ∧ c ≤ '9' then some (c.toNat - 0x30) else none
  | none => none

/-- The indicators behind the bar or the angle, in either order. -/
def indicators (c : Cursor) : Header × Cursor :=
  match chomp? c.peek with
  | some chomp =>
    match digit? c.step.peek with
    | some n => (⟨chomp, some n⟩, c.skip 2)
    | none => (⟨chomp, none⟩, c.step)
  | none =>
    match digit? c.peek with
    | some n =>
      match chomp? c.step.peek with
      | some chomp => (⟨chomp, some n⟩, c.skip 2)
      | none => (⟨.clip, some n⟩, c.step)
    | none => ({}, c)

/-- The header up to the end of its line, which may hold a comment. -/
def header (c : Cursor) : Except Error (Header × Cursor) :=
  let (h, c) := indicators c
  if h.increment = some 0 || !endsHeader c.peek then .error .malformed
  else
    let c := c.skipWhile (· = ' ')
    let c := if c.peek = some '#' then c.skipWhile fun ch => !endsLine (some ch) else c
    if !endsLine c.peek then .error .malformed
    else .ok (h, match c.lineBreak? with
      | some (_, c) => c
      | none => c)

structure Leading where
  breaks : List Char
  /-- The greatest column that was reached. -/
  widest : Nat
  /-- The column of the first line break. -/
  first : Option Nat
  after : Cursor

/-- Reads the blank lines in front of the first line, and its indentation. -/
def leading : Nat → Nat → Option Nat → Cursor → Leading
  | 0, widest, first, c => ⟨[], widest, first, c⟩
  | fuel + 1, widest, first, c =>
    match c.lineBreak? with
    | some (b, c') =>
      let l := leading fuel widest (some (first.getD c.column)) c'
      { l with breaks := b :: l.breaks }
    | none =>
      if c.peek = some ' ' then leading fuel (max widest c.step.column) first c.step
      else ⟨[], widest, first, c⟩

/-- Line breaks, and the indentation behind each of them. -/
def breaksFrom (indent : Nat) : Nat → Cursor → List Char × Cursor
  | 0, c => ([], c)
  | fuel + 1, c =>
    match c.lineBreak? with
    | some (b, c) =>
      let (bs, c) := breaksFrom indent fuel (c.skipIndent indent)
      (b :: bs, c)
    | none => ([], c)

def breaks (indent : Nat) (c : Cursor) : List Char × Cursor :=
  breaksFrom indent (c.rest.length + 1) (c.skipIndent indent)

/-- The lines of a text with the line break of the last one and the breaks behind that. -/
structure Lines where
  text : List Char
  lastBreak : List Char
  trailing : List Char
  after : Cursor

def isSpaceOrTab : Option Char → Bool
  | some c => c = ' ' || c = '\t'
  | none => false

/-- Reads lines that are indented by `indent`. `pending` are the breaks in front of the next. -/
def linesFrom (folded topLevel : Bool) (indent : Nat) :
    Nat → List Char → List Char → Cursor → Lines
  | 0, last, pending, c => ⟨[], last, pending, c⟩
  | fuel + 1, last, pending, c =>
    if c.column ≠ indent ∨ c.rest = [] then ⟨[], last, pending, c⟩
    else
      let further := isSpaceOrTab c.peek
      let (line, c) := c.takeWhile fun ch => !endsLine (some ch)
      let (last, c) := match c.lineBreak? with
        | some (b, c) => ([b], c)
        | none => ([], c)
      let (pendingNext, c) := breaks indent c
      let text := pending ++ line
      if (topLevel && c.column = 0 && c.atSeparator) || c.column ≠ indent || c.rest = [] then
        ⟨text, last, pendingNext, c⟩
      else
        let joint :=
          if folded ∧ last = ['\n'] ∧ !further ∧ !isSpaceOrTab c.peek then
            if pendingNext = [] then [' '] else []
          else last
        let more := linesFrom folded topLevel indent fuel last pendingNext c
        { more with text := text ++ joint ++ more.text }

/-- Reads a text from its bar or angle on; `outer` is the indentation around it. -/
def read (folded : Bool) (outer : Int) (c : Cursor) : Except Error (List Char × Cursor) :=
  match header c.step with
  | .error e => .error e
  | .ok (h, c) =>
    let least := (outer + 1).toNat
    let found : Except Error (Nat × List Char × Cursor) :=
      match h.increment with
      | none =>
        let l := leading (c.rest.length + 1) 0 none c
        if l.first.any fun first => 0 < first && first < l.widest then .error .malformed
        else .ok (max least l.widest, l.breaks, l.after)
      | some n =>
        let indent := max least 1 + n - 1
        let (bs, c) := breaks indent c
        .ok (indent, bs, c)
    match found with
    | .error e => .error e
    | .ok (indent, pending, c) =>
      let topLevel := least = 0 && h.increment.isNone
      let l := linesFrom folded topLevel indent (c.rest.length + 1) [] pending c
      let ending := match h.chomp with
        | .strip => []
        | .clip => l.lastBreak
        | .keep => l.lastBreak ++ l.trailing
      .ok (l.text ++ ending, l.after)

end LinkIndex.Yaml.Block

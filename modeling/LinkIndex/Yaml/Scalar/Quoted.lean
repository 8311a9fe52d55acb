import LinkIndex.Json.Reader
import LinkIndex.Yaml.Cursor
import LinkIndex.Yaml.Error

/-!
Texts between quotation marks. Between apostrophes an apostrophe is written twice,
and nothing else is special; between quotation marks a backslash starts an escape.
Line breaks are folded as in plain texts.
-/

namespace LinkIndex.Yaml.QuotedText

/-- The character that a one-letter escape stands for. -/
def simpleEscape? (c : Char) : Option Char :=
  [('0', '\x00'), ('a', '\x07'), ('b', '\x08'), ('t', '\t'), ('\t', '\t'), ('n', '\n'),
   ('v', '\x0b'), ('f', '\x0c'), ('r', '\r'), ('e', '\x1b'), (' ', ' '), ('"', '"'), ('/', '/'),
   ('\\', '\\'), ('N', '\x85'), ('_', '\xa0'), ('L', '\u2028'), ('P', '\u2029')].lookup c

def codeEscape? (c : Char) : Option Nat :=
  [('x', 2), ('u', 4), ('U', 8)].lookup c

/-- The code point that hexadecimal digits denote. -/
def hexNumber? (digits : List Char) : Option Nat :=
  digits.foldl (fun n? c => n?.bind fun n => (Json.hexValue? c).map (n * 16 + ·)) (some 0)

/-- Line breaks and the blanks around them. A mark that parts documents is refused. -/
def breaks : Nat → Cursor → Except Error (List Char × Cursor)
  | 0, c => .ok ([], c)
  | fuel + 1, c =>
    if c.atSeparator then .error .malformed
    else
      let c := c.skipWhile fun ch => ch = ' ' || ch = '\t'
      match c.lineBreak? with
      | none => .ok ([], c)
      | some (b, c) =>
        match breaks fuel c with
        | .ok (bs, c) => .ok (b :: bs, c)
        | .error e => .error e

/-- Blanks and line breaks inside a quoted text. -/
def gap (c : Cursor) : Except Error (List Char × Cursor) :=
  let (blanks, c) := c.takeWhile fun ch => ch = ' ' || ch = '\t'
  match c.lineBreak? with
  | some (b, c) =>
    match breaks (c.rest.length + 1) c with
    | .ok (bs, c) =>
      let first := if b ≠ '\n' then [b] else if bs = [] then [' '] else []
      .ok (first ++ bs, c)
    | .error e => .error e
  | none => if c.rest = [] then .error .malformed else .ok (blanks, c)

def escape (c : Cursor) : Except Error (List Char × Cursor) :=
  match c.peek with
  | none => .error .malformed
  | some ch =>
    match simpleEscape? ch, codeEscape? ch with
    | some image, _ => .ok ([image], c.step)
    | none, some width =>
      let digits := c.step.rest.take width
      if digits.length < width then .error .malformed
      else match hexNumber? digits with
        | none => .error .malformed
        | some n =>
          if 0x10FFFF < n then .error (.noSuchCharacter (0x7FFFFFFF < n))
          else .ok ([Json.unitChar n], c.skip (width + 1))
    | none, none =>
      match c.lineBreak? with
      | some (_, c) => breaks (c.rest.length + 1) c
      | none => .error .malformed

def body (mark : Char) : Nat → Cursor → Except Error (List Char × Cursor)
  | 0, _ => .error .malformed
  | fuel + 1, c =>
    let more (piece : List Char) (c : Cursor) : Except Error (List Char × Cursor) :=
      match body mark fuel c with
      | .ok (cs, c) => .ok (piece ++ cs, c)
      | .error e => .error e
    match c.peek with
    | none => .error .malformed
    | some ch =>
      if ch = mark then
        if mark = '\'' ∧ c.peekAt 1 = some '\'' then more ['\''] (c.skip 2)
        else .ok ([], c.step)
      else if mark = '"' ∧ ch = '\\' then
        match escape c.step with
        | .ok (piece, c) => more piece c
        | .error e => .error e
      else if ch = ' ' ∨ ch = '\t' ∨ isBreak ch then
        match gap c with
        | .ok (piece, c) => more piece c
        | .error e => .error e
      else more [ch] c.step

/-- Reads a text that starts with its opening mark. -/
def read (mark : Char) (c : Cursor) : Except Error (List Char × Cursor) :=
  body mark (c.rest.length + 1) c.step

end LinkIndex.Yaml.QuotedText

import LinkIndex.Markdown.Markup
import LinkIndex.Markdown.Reference

/-!
Spans: the parts of a text that mean something else than their characters. They are
found independently of each other, so they may overlap; here are those that hold no
further spans.
-/

namespace LinkIndex.Markdown

inductive Mark
  | escaped (c : Char)
  | lineBreak (hard : Bool)
  | markup
  | code (text : List Char)
  | autolink (dest text : List Char)
  | emphasis
  | strong
  | link (target : Target)
  | image (target : Target)
  deriving DecidableEq, Repr

namespace Mark

/-- Of two spans that overlap, the one of higher rank may replace the other. -/
def rank : Mark → Nat
  | .lineBreak _ => 2
  | .emphasis => 5
  | .strong => 5
  | .link _ => 5
  | .image _ => 5
  | _ => 7

def holdsSpans : Mark → Bool
  | .emphasis => true
  | .strong => true
  | .link _ => true
  | .image _ => true
  | _ => false

end Mark

/-- A span from `start` up to `stop`, and the part of it that is its text. -/
structure Span where
  start : Nat
  stop : Nat
  innerStart : Nat
  innerStop : Nat
  mark : Mark
  deriving DecidableEq, Repr

def Span.leaf (start length : Nat) (mark : Mark) : Span :=
  ⟨start, start + length, start, start + length, mark⟩

/-- Finds the spans of one kind from left to right. A span begins where `p` gives its length, by
the character before that place and the text from there on. `skip` characters belong to the span
before. -/
def findFrom (p : Option Char → List Char → Option (Nat × Mark)) :
    Nat → Nat → Option Char → List Char → List Span
  | _, _, _, [] => []
  | i, skip + 1, _, c :: rest => findFrom p (i + 1) skip (some c) rest
  | i, 0, before, c :: rest =>
    match p before (c :: rest) with
    | some (n + 1, mark) => .leaf i (n + 1) mark :: findFrom p (i + 1) n (some c) rest
    | _ => findFrom p (i + 1) 0 (some c) rest

def find (p : Option Char → List Char → Option (Nat × Mark)) (text : List Char) : List Span :=
  findFrom p 0 0 none text

/-- A backslash in front of punctuation. -/
def escaped? : List Char → Option (Nat × Mark)
  | '\\' :: c :: _ => if isAsciiPunctuation c then some (2, .escaped c) else none
  | _ => none

/-- A line feed that does not end the text. The line breaks where two spaces or a backslash stand
before it. -/
def lineBreak? : List Char → Option (Nat × Mark)
  | '\\' :: '\n' :: _ :: _ => some (2, .lineBreak true)
  | cs =>
    let spaces := (cs.takeWhile (· = ' ')).length
    match cs.drop spaces with
    | '\n' :: _ :: _ => some (spaces + 1, .lineBreak (2 ≤ spaces))
    | _ => none

def rawMarkup? (cs : List Char) : Option (Nat × Mark) :=
  (afterMarkup? cs).map fun after => (cs.length - after.length, .markup)

/-- The text up to a run of exactly `n` backticks. -/
def upToRun? (n : Nat) : Nat → List Char → Option (List Char)
  | 0, _ => none
  | fuel + 1, cs =>
    let text := cs.takeWhile (· ≠ '`')
    let rest := cs.drop text.length
    let run := rest.takeWhile (· = '`')
    if run = [] then none
    else if run.length = n then some text
    else (upToRun? n fuel (rest.drop run.length)).map (text ++ run ++ ·)

/-- The text of a code span: on one line, and without one space at each end, if both are there
and not all is blank. -/
def codeText (raw : List Char) : List Char :=
  let text := raw.map fun c => if c = '\n' then ' ' else c
  if !Text.isBlankText text && text.head? = some ' ' && text.getLast? = some ' ' then
    (text.drop 1).dropLast
  else text

/-- A run of backticks up to one of the same length. -/
def code? (before : Option Char) (cs : List Char) : Option (Nat × Mark) :=
  let run := (cs.takeWhile (· = '`')).length
  if run = 0 ∨ before = some '`' then none
  else
    match upToRun? run (cs.length + 1) (cs.drop run) with
    | some raw => some (raw.length + 2 * run, .code (codeText raw))
    | none => none

def isSchemeChar (c : Char) : Bool :=
  isTagChar c || c = '+' || c = '.'

/-- Whether a text is a URL with a scheme of two to 32 characters, and without blanks. -/
def isUri (cs : List Char) : Bool :=
  let scheme := cs.takeWhile isSchemeChar
  cs.head?.any Char.isAlpha && 2 ≤ scheme.length && scheme.length ≤ 32 &&
    (cs.drop scheme.length).head? = some ':' && cs.all fun c => !(isBlank c || c = '<')

def isMailChar (c : Char) : Bool :=
  isTagChar c || ".!#$%&'*+/=?^_`\x7b|\x7d~".toList.contains c

/-- A part of the domain of a mail address. -/
def isMailLabel (cs : List Char) : Bool :=
  cs.all isTagChar && 1 ≤ cs.length && cs.length ≤ 63 && cs.head? ≠ some '-' &&
    cs.getLast? ≠ some '-'

/-- Whether a text is a mail address. -/
def isMail (cs : List Char) : Bool :=
  let name := cs.takeWhile isMailChar
  match cs.drop name.length with
  | '@' :: domain => !name.isEmpty && (Text.cutAt (· = '.') domain).all isMailLabel
  | _ => false

/-- A URL or a mail address between angles. -/
def autolink? : List Char → Option (Nat × Mark)
  | '<' :: rest =>
    let text := rest.takeWhile (· ≠ '>')
    match rest.drop text.length with
    | '>' :: _ =>
      if isUri text then some (text.length + 2, .autolink text text)
      else if isMail text then some (text.length + 2, .autolink ("mailto:".toList ++ text) text)
      else none
    | _ => none
  | _ => none

/-- The spans of a text that hold no further ones, kind by kind. Those that are found behind the
links and the emphasis come second. -/
def leafSpans (text : List Char) : List Span × List Span :=
  (find (fun _ => lineBreak?) text ++ find (fun _ => escaped?) text,
   find (fun _ => rawMarkup?) text ++ find code? text ++ find (fun _ => autolink?) text)

end LinkIndex.Markdown

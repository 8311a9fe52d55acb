import LinkIndex.Assoc
import LinkIndex.Yaml.Scalar.Block
import LinkIndex.Yaml.Scalar.Quoted
import LinkIndex.Yaml.Token.Name

/-!
YAML text as tokens. Blocks are opened and closed by the column of what comes
next. A key is known to be one only by the colon behind it: its token, and the
start of a block in front of that, are put in their places when the colon comes.
-/

namespace LinkIndex.Yaml

/-- What may turn out to be a key: it stands on one line and is not too long. -/
structure KeyCandidate where
  /-- How many tokens stand in front of it. -/
  position : Nat
  /-- Whether the indentation demands a key here. -/
  required : Bool
  line : Nat
  column : Nat
  index : Nat
  deriving DecidableEq, Repr

inductive Bracket
  | square
  | curly
  deriving DecidableEq, Repr

/-- A place in the text, and what the tokens before it say about those behind it. -/
structure Lexer where
  cursor : Cursor
  /-- The tokens so far, the last one first. -/
  tokens : List Token := []
  indent : Int := -1
  outerIndents : List Int := []
  /-- The open brackets, the innermost one first. -/
  brackets : List Bracket := []
  /-- The candidate of each level of brackets. -/
  candidates : Assoc Nat KeyCandidate := []
  /-- Whether a key may start here. -/
  keyAllowed : Bool := true
  version : Version := .v1_2
  deriving Repr

namespace Lexer

def level (l : Lexer) : Nat :=
  l.brackets.length

def inFlow (l : Lexer) : Bool :=
  !l.brackets.isEmpty

def push (l : Lexer) (t : Token) : Lexer :=
  { l with tokens := t :: l.tokens }

def moveTo (l : Lexer) (c : Cursor) : Lexer :=
  { l with cursor := c }

/-- Puts a token behind the first `position` ones. -/
def insert (l : Lexer) (position : Nat) (t : Token) : Lexer :=
  let behind := l.tokens.length - position
  { l with tokens := l.tokens.take behind ++ t :: l.tokens.drop behind }

/-- Gives up the candidate of this level. A key that had to come is missed. -/
def dropCandidate (l : Lexer) : Except Error Lexer :=
  match l.candidates.get? l.level with
  | some k =>
    if k.required then .error .malformed
    else .ok { l with candidates := l.candidates.erase l.level }
  | none => .ok l

/-- A candidate is here, if a key may start here. -/
def markCandidate (l : Lexer) : Except Error Lexer :=
  if l.keyAllowed then
    match l.dropCandidate with
    | .error e => .error e
    | .ok l =>
      let c := l.cursor
      let k : KeyCandidate :=
        { position := l.tokens.length, line := c.line, column := c.column, index := c.index
          required := !l.inFlow && l.indent == c.column }
      .ok { l with candidates := l.candidates.put l.level k }
  else .ok l

/-- The longest distance between a key and its colon. -/
def maxKeyLength : Nat := 1024

def KeyCandidate.isStale (k : KeyCandidate) (c : Cursor) : Bool :=
  k.line ≠ c.line || k.index + maxKeyLength < c.index

/-- Gives up the candidates that are on another line or too far back. -/
def dropStale (l : Lexer) : Except Error Lexer :=
  if l.candidates.any fun p => KeyCandidate.isStale p.2 l.cursor && p.2.required then
    .error .malformed
  else
    .ok { l with candidates := l.candidates.filter fun p => !KeyCandidate.isStale p.2 l.cursor }

def closeBlocks (l : Lexer) (column : Int) : Lexer :=
  if l.inFlow then l else go l.indent l.outerIndents l.tokens
where
  /-- Closes blocks from the innermost one on. -/
  go (indent : Int) (outer : List Int) (tokens : List Token) : Lexer :=
    if column < indent then
      match outer with
      | [] => { l with indent := -1, outerIndents := [], tokens := .blockEnd :: tokens }
      | i :: outer => go i outer (.blockEnd :: tokens)
    else { l with indent, outerIndents := outer, tokens }

/-- Opens a block at `column` if it is indented further. The flag tells whether one opened. -/
def openBlock (l : Lexer) (column : Nat) : Bool × Lexer :=
  if l.indent < column then
    (true, { l with indent := column, outerIndents := l.indent :: l.outerIndents })
  else (false, l)

/-- Passes over blanks, comments and line breaks. Where no bracket is open, a key may start on a
new line, and tabs are passed over only behind blank lines. -/
def skipBlanks (inFlow : Bool) : Nat → Bool → Cursor → Bool × Cursor
  | 0, broke, c => (broke, c)
  | fuel + 1, broke, c =>
    let c := c.skipWhile fun ch => ch = ' ' || (inFlow && ch = '\t')
    if c.peek = some '#' then
      skipBlanks inFlow fuel true ((c.skipWhile fun ch => !endsLine (some ch)).skipWhile isBreak)
    else match c.lineBreak? with
      | some (_, c) =>
        let c := if c.peek = some '\n' then c.skipWhile fun ch =>
          ch = ' ' || ch = '\t' || isBreak ch else c
        skipBlanks inFlow fuel true c
      | none => (broke, c)

def toNextToken (l : Lexer) : Lexer :=
  let c := l.cursor
  let c := if c.index = 0 ∧ c.peek = some '\ufeff' then c.step else c
  let (broke, c) := skipBlanks l.inFlow (c.rest.length + 1) false c
  { l with cursor := c, keyAllowed := l.keyAllowed || (broke && !l.inFlow) }

/-- A directive or a mark between documents closes every block. -/
def closeDocument (l : Lexer) : Except Error Lexer :=
  match (l.closeBlocks (-1)).dropCandidate with
  | .error e => .error e
  | .ok l => .ok { l with keyAllowed := false }

def directive (l : Lexer) : Except Error Lexer := do
  let l ← l.closeDocument
  let (token, c) ← readDirective l.version l.cursor
  let version := match token with
    | .version 1 1 => .v1_1
    | .version 1 2 => .v1_2
    | .version _ minor => .other minor
    | _ => l.version
  pure { (l.push token).moveTo c with version }

def separator (l : Lexer) (t : Token) : Except Error Lexer := do
  let l ← l.closeDocument
  pure ((l.push t).moveTo (l.cursor.skip 3))

def openBracket (l : Lexer) (bracket : Bracket) (t : Token) : Except Error Lexer := do
  let l ← l.markCandidate
  pure { (l.push t).moveTo l.cursor.step with
    brackets := bracket :: l.brackets, keyAllowed := true }

def closeBracket (l : Lexer) (t : Token) : Except Error Lexer := do
  let l ← l.dropCandidate
  pure { (l.push t).moveTo l.cursor.step with
    brackets := l.brackets.tail, keyAllowed := false }

def flowEntry (l : Lexer) : Except Error Lexer := do
  let l ← l.dropCandidate
  pure { (l.push .flowEntry).moveTo l.cursor.step with keyAllowed := true }

/-- Opens a block for an entry or a key that is not inside brackets; it has to stand where a key
may start. -/
def startEntry (l : Lexer) (start : Token) : Except Error Lexer :=
  if l.inFlow then .ok l
  else if !l.keyAllowed then .error .malformed
  else
    let (opened, l) := l.openBlock l.cursor.column
    .ok (if opened then l.push start else l)

def blockEntry (l : Lexer) : Except Error Lexer := do
  let l ← l.startEntry .blockSequenceStart
  let l ← l.dropCandidate
  pure { (l.push .blockEntry).moveTo l.cursor.step with keyAllowed := true }

def explicitKey (l : Lexer) : Except Error Lexer := do
  let l ← l.startEntry .blockMappingStart
  let l ← l.dropCandidate
  pure { (l.push .key).moveTo l.cursor.step with keyAllowed := !l.inFlow }

/-- A colon: the candidate of this level is a key. Without one the key is empty, or stands
behind a question mark. -/
def colon (l : Lexer) : Except Error Lexer :=
  match l.candidates.get? l.level with
  | some k =>
    let l := { l with candidates := l.candidates.erase l.level, keyAllowed := false }
    let l := l.insert k.position .key
    let (opened, l) := if l.inFlow then (false, l) else l.openBlock k.column
    let l := if opened then l.insert k.position .blockMappingStart else l
    .ok ((l.push .value).moveTo l.cursor.step)
  | none => do
    let l ← l.startEntry .blockMappingStart
    let l ← ({ l with keyAllowed := !l.inFlow } : Lexer).dropCandidate
    pure ((l.push .value).moveTo l.cursor.step)

def anchorName (l : Lexer) (token : String → Token) : Except Error Lexer := do
  let l ← l.markCandidate
  let (name, c) ← readAnchorName l.cursor
  pure { (l.push (token name)).moveTo c with keyAllowed := false }

def tagName (l : Lexer) : Except Error Lexer := do
  let l ← l.markCandidate
  let (tag, c) ← readTag l.version l.cursor
  pure { (l.push (.tag tag)).moveTo c with keyAllowed := false }

def blockText (l : Lexer) (folded : Bool) : Except Error Lexer := do
  let l ← l.dropCandidate
  let (text, c) ← Block.read folded l.indent l.cursor
  pure { (l.push (.scalar false (String.ofList text))).moveTo c with keyAllowed := true }

def quotedText (l : Lexer) (mark : Char) : Except Error Lexer := do
  let l ← l.markCandidate
  let (text, c) ← QuotedText.read mark l.cursor
  pure { (l.push (.scalar false (String.ofList text))).moveTo c with keyAllowed := false }

def plainText (l : Lexer) : Except Error Lexer := do
  let l ← l.markCandidate
  let r := Plain.read l.version l.inFlow (l.indent + 1) l.cursor
  if r.after.index = l.cursor.index then throw .malformed
  pure { (l.push (.scalar true (String.ofList r.text))).moveTo r.after with
    keyAllowed := r.brokeLine }

def atKeyMark (l : Lexer) : Bool :=
  l.inFlow || endsWord (l.cursor.peekAt 1)

/-- Whether a colon here is the mark of a value. Inside of brackets it need not be followed by a
blank, except in a list and directly behind another one. -/
def atValueMark (l : Lexer) : Bool :=
  let blank := endsWord (l.cursor.peekAt 1)
  match l.brackets with
  | [] => blank
  | bracket :: _ =>
    blank || l.version = .v1_1 ||
      (bracket = .curly && l.tokens.head? ≠ some .value)

def startsPlain (l : Lexer) (c : Char) : Bool :=
  if !(endsWord (some c) || isBreak c || "-?:,[]\x7b\x7d#&*!|>'\"%@`".toList.contains c) then true
  else
    let next := l.cursor.peekAt 1
    let blank := endsWord next
    let onLine := !(next = some ' ' || next = some '\t')
    (c = '-' && !blank) ||
      (c = ':' && l.inFlow && l.version ≠ .v1_1 && onLine) ||
      ((c = '?' || c = ':') && !l.inFlow && !blank)

def token (l : Lexer) (ch : Char) : Except Error Lexer :=
  let c := l.cursor
  let atStart := c.column = 0
  if ch = '%' ∧ atStart then l.directive
  else if atStart && c.atWord ['-', '-', '-'] then l.separator .documentStart
  else if atStart && c.atWord ['.', '.', '.'] then l.separator .documentEnd
  else if ch = '[' then l.openBracket .square .flowSequenceStart
  else if ch = '\x7b' then l.openBracket .curly .flowMappingStart
  else if ch = ']' then l.closeBracket .flowSequenceEnd
  else if ch = '\x7d' then l.closeBracket .flowMappingEnd
  else if ch = ',' then l.flowEntry
  else if ch = '-' && endsWord (c.peekAt 1) then l.blockEntry
  else if ch = '?' && l.atKeyMark then l.explicitKey
  else if ch = ':' && l.atValueMark then l.colon
  else if ch = '*' then l.anchorName .aliasTo
  else if ch = '&' then l.anchorName .anchor
  else if ch = '!' then l.tagName
  else if ch = '|' && !l.inFlow then l.blockText false
  else if ch = '>' && !l.inFlow then l.blockText true
  else if ch = '\'' || ch = '"' then l.quotedText ch
  else if l.startsPlain ch then l.plainText
  else .error .malformed

/-- The next tokens; nothing where the text has ended. -/
def next? (l : Lexer) : Except Error (Option Lexer) :=
  match l.cursor.peek with
  | none => return none
  | some ch => some <$> l.token ch

/-- Ends with a refusal. A token is told only when the one behind it is known, and a candidate when
it is known whether it is a key; so the refusal comes in place of those that wait for it. -/
def refuse (l : Lexer) (e : Error) : Lexer :=
  let told := l.candidates.foldl (fun n p => min n p.2.position) (l.tokens.length - 1)
  { l with tokens := .refused e :: l.tokens.drop (l.tokens.length - told) }

def run : Nat → Lexer → Lexer
  | 0, l => l.refuse .malformed
  | fuel + 1, l =>
    match l.toNextToken.dropStale with
    | .error e => l.refuse e
    | .ok l =>
      let l := l.closeBlocks l.cursor.column
      match l.next? with
      | .error e => l.refuse e
      | .ok (some l) => run fuel l
      | .ok none =>
        match l.closeDocument with
        | .error e => l.refuse e
        | .ok l => l

end Lexer

/-- Whether a character may stand in YAML text. -/
def isYamlChar (c : Char) : Bool :=
  c = '\t' || c = '\n' || c = '\r' || ('\x20' ≤ c && c ≤ '\x7e') || c = '\x85' ||
    ('\xa0' ≤ c && c.toNat ≤ 0xD7FF) || (0xE000 ≤ c.toNat && c.toNat ≤ 0xFFFD) ||
    0x10000 ≤ c.toNat

/-- The tokens of a text, and the version of the language it names. -/
def tokens (text : List Char) : List Token × Version :=
  if text.all isYamlChar then
    let l := Lexer.run (text.length + 2) { cursor := { rest := text } }
    (l.tokens.reverse, l.version)
  else ([.refused .malformed], .v1_2)

end LinkIndex.Yaml

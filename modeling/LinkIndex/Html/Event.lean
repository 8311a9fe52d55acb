import LinkIndex.Html.StartTag

/-!
An HTML fragment as the pieces that it is made of, in source order: start tags, end tags,
and all that stands for text. A fragment with a marked section of an unknown kind is refused
as a whole, and so is one with a start tag that is refused.

A fragment is read in two rounds. What is broken off at the end of the fragment ends the
first round; the second begins there and takes it for text. A reference that is broken off
ends either round.
-/

namespace LinkIndex.Html

inductive Event
  /-- A start tag. -/
  | opening (tag : StartTag)
  /-- A start tag with a slash in front of its end. -/
  | selfClosing (tag : StartTag)
  /-- An end tag, by its name in lower case. -/
  | closing (name : List Char)
  /-- A reference to a character by its decimal number. -/
  | number (digits : List Char)
  /-- Other text, a comment, a declaration or an instruction. -/
  | text
  deriving DecidableEq, Repr

/-- What follows the first place at which `p` recognises an ending. -/
def afterFirst (p : List Char → Option (List Char)) : List Char → Option (List Char)
  | [] => none
  | c :: rest => (p (c :: rest)).or (afterFirst p rest)

def afterAngle : List Char → Option (List Char) :=
  afterFirst fun
    | '>' :: rest => some rest
    | _ => none

/-- What follows a `>` that only blanks part from here. -/
def blankAngle (cs : List Char) : Option (List Char) :=
  match cs.dropWhile isBlank with
  | '>' :: rest => some rest
  | _ => none

/-- What follows the end of a comment: two hyphens, and blanks before the `>`. -/
def afterComment : List Char → Option (List Char) :=
  afterFirst fun
    | '-' :: '-' :: rest => blankAngle rest
    | _ => none

/-- What follows the end of a section with one bracket. -/
def afterBracket : List Char → Option (List Char) :=
  afterFirst fun
    | ']' :: rest => blankAngle rest
    | _ => none

/-- What follows the end of a section with two brackets. -/
def afterTwoBrackets : List Char → Option (List Char) :=
  afterFirst fun
    | ']' :: rest =>
      match rest.dropWhile isBlank with
      | ']' :: rest => blankAngle rest
      | _ => none
    | _ => none

/-- What follows the end tag of an element whose content is plain text, if one begins here. -/
def endTagOf (name : List Char) : List Char → Option (List Char)
  | '<' :: '/' :: rest =>
    let rest := rest.dropWhile isBlank
    let found := rest.take name.length
    if found.map Char.toLower = name ∧ found.all Char.isAlpha then
      blankAngle (rest.drop name.length)
    else none
  | _ => none

/-- What follows the first end tag of an element whose content is plain text. -/
def afterEndTag (name : List Char) : List Char → Option (List Char) :=
  afterFirst (endTagOf name)

/-- The text in front of that end tag. -/
def plainContent (name : List Char) : List Char → List Char
  | [] => []
  | c :: rest =>
    if (endTagOf name (c :: rest)).isSome then [] else c :: plainContent name rest

/-- What a piece of markup comes to: a piece that is read, if it stands for anything, a piece that
is broken off, or a refusal. -/
inductive Piece
  | next (event : Option Event) (rest : List Char)
  | broken
  | refused

/-- A piece up to an end that was found, or one that is broken off. -/
def Piece.ofEnd (event : Option Event) : Option (List Char) → Piece
  | some rest => .next event rest
  | none => .broken

def isEndNameChar (c : Char) : Bool :=
  c.isAlpha || c.isDigit || c = '-' || c = '.' || c = ':' || c = '_'

/-- The name behind `</`: one with blanks around it at most, or what a start tag would be called;
what begins with no letter names nothing. -/
def endTagName? (cs : List Char) : Option (List Char) :=
  let inner := cs.dropWhile isBlank
  let name := inner.takeWhile isEndNameChar
  if inner.head?.any Char.isAlpha && (blankAngle (inner.dropWhile isEndNameChar)).isSome then
    some (lowercase name)
  else if cs.head?.any Char.isAlpha then some (lowercase (cs.takeWhile isTagNameChar))
  else none

/-- An end tag behind `</`. One without a name is a comment, unless it is empty. -/
def readEndTag (cs : List Char) : Piece :=
  match endTagName? cs with
  | some name => .ofEnd (some (.closing name)) (afterAngle cs)
  | none => .ofEnd (if cs.head? = some '>' then none else some .text) (afterAngle cs)

def isDeclarationNameChar (c : Char) : Bool :=
  c.isAlpha || c.isDigit || c = '-' || c = '_' || c = '.'

def readSection (cs : List Char) : Piece :=
  match cs with
  | [] => .broken
  | c :: _ =>
    if !c.isAlpha then .refused
    else
      let name := (cs.takeWhile isDeclarationNameChar).map Char.toLower
      if (cs.dropWhile isDeclarationNameChar).dropWhile isBlank = [] then .broken
      else if ["temp".toList, "cdata".toList, "ignore".toList, "include".toList,
          "rcdata".toList].contains name then
        .ofEnd (some .text) (afterTwoBrackets cs)
      else if ["if".toList, "else".toList, "endif".toList].contains name then
        .ofEnd (some .text) (afterBracket cs)
      else .refused

def readDeclaration (cs : List Char) : Piece :=
  match cs with
  | '-' :: '-' :: rest => .ofEnd (some .text) (afterComment rest)
  | '[' :: rest => readSection rest
  | cs =>
    if (cs.take 7).map Char.toLower = "doctype".toList then
      .ofEnd (some .text) (afterAngle (cs.drop 7))
    else .ofEnd (some .text) (afterAngle cs)

/-- Where the text goes on after a piece that is broken off: behind the next `>`, else at the
next `<`, else one character on. `cs` is what follows the `<` of the piece. -/
def afterBroken (cs : List Char) : List Char :=
  match afterAngle cs with
  | some rest => rest
  | none =>
    match cs.dropWhile (· ≠ '<') with
    | [] => cs
    | rest => rest

/-- What a numeric or named reference comes to. Where it stops a round, the characters `passed`
are text that is read before. -/
inductive RefEnd
  | next (event : Event) (rest : List Char)
  | stop (passed rest : List Char)

/-- Where no numeric reference stands behind `&#`, the round ends, two characters on if a semicolon
is left at all. -/
def noNumberRef (cs : List Char) : RefEnd :=
  if ';' ∈ cs then .stop ['&', '#'] cs else .stop [] ('&' :: '#' :: cs)

/-- The end of a numeric reference, by what follows its digits: there has to be a character that
is no hexadecimal digit. `cs` is what follows the `&#`. -/
def endNumberRef (cs : List Char) (event : Event) : List Char → RefEnd
  | ';' :: rest => .next event rest
  | c :: rest => if c.isHexDigit then noNumberRef cs else .next event (c :: rest)
  | [] => noNumberRef cs

def readNumberRef (cs : List Char) : RefEnd :=
  match cs.takeWhile Char.isDigit, cs with
  | d :: digits, _ => endNumberRef cs (.number (d :: digits)) (cs.dropWhile Char.isDigit)
  | [], x :: rest =>
    if (x = 'x' ∨ x = 'X') ∧ (rest.takeWhile Char.isHexDigit) ≠ [] then
      endNumberRef cs .text (rest.dropWhile Char.isHexDigit)
    else noNumberRef cs
  | [], [] => noNumberRef cs

def isRefNameChar (c : Char) : Bool :=
  c.isAlpha || c.isDigit || c = '-' || c = '.'

/-- A named reference behind `&`, whose name begins with a letter. It has to be followed by
something: another character, or a hyphen or point of its own name. -/
def readNameRef (second : Bool) (cs : List Char) : RefEnd :=
  match cs.dropWhile isRefNameChar with
  | ';' :: rest => .next .text rest
  | c :: rest => .next .text (c :: rest)
  | [] =>
    let n := (cs.reverse.takeWhile fun c => !(c = '-' || c = '.')).length
    if n < cs.length then .next .text (cs.drop (cs.length - n - 1))
    else if second && cs.length = 1 then .stop [] cs
    else .stop [] ('&' :: cs)

/-- Elements whose content is plain text. -/
def isPlainContent (name : List Char) : Bool :=
  name = "script".toList || name = "style".toList

/-- Characters that begin no markup. -/
def isPlain (c : Char) : Bool :=
  !(c = '&' || c = '<')

/-- Some text as a piece, unless it is empty. -/
def textEvents (text : List Char) : List Event :=
  if text = [] then [] else [.text]

/-- A step through a fragment: the pieces that were read, and from where and in which round to go
on, if there is more to read. `second` tells the rounds apart. -/
inductive Move
  | goOn (events : List Event) (second : Bool) (rest : List Char)
  | stop (events : List Event)
  | refused

/-- Puts pieces in front. -/
def Move.after (before : List Event) : Move → Move
  | .goOn events second rest => .goOn (before ++ events) second rest
  | .stop events => .stop (before ++ events)
  | .refused => .refused

/-- The end of a round, with the characters that are left over. -/
def endRound (second : Bool) (rest : List Char) : Move :=
  if second then .stop (textEvents rest) else .goOn [] true rest

def Piece.move (second : Bool) (inner : List Char) : Piece → Move
  | .next event rest => .goOn event.toList second rest
  | .broken =>
    if second then .goOn [.text] true (afterBroken inner) else .goOn [] true ('<' :: inner)
  | .refused => .refused

/-- A start tag behind `<`. An element whose content is plain text is read to its end tag; without
one it takes the rest of the fragment. -/
def TagEnd.move (second : Bool) (inner : List Char) : TagEnd → Move
  | .open tag rest =>
    if isPlainContent tag.name then
      match afterEndTag tag.name rest with
      | some after =>
        .goOn (.opening tag :: textEvents (plainContent tag.name rest) ++ [.closing tag.name])
          second after
      | none => .stop [.opening tag]
    else .goOn [.opening tag] second rest
  | .closed tag rest => .goOn [.selfClosing tag] second rest
  | .broken => Piece.broken.move second inner
  | .text rest => .goOn [.text] second rest
  | .refused => .refused

def RefEnd.move (second : Bool) : RefEnd → Move
  | .next event rest => .goOn [event] second rest
  | .stop passed rest => (endRound second rest).after (textEvents passed)

def markupMove (second : Bool) (inner : List Char) : Move :=
  match inner with
  | [] => endRound second ['<']
  | '/' :: tag => (readEndTag tag).move second inner
  | '?' :: body => (Piece.ofEnd (some .text) (afterAngle body)).move second inner
  | '!' :: body => (readDeclaration body).move second inner
  | c :: _ =>
    if c.isAlpha then (readTag inner).move second inner else .goOn [.text] second inner

def referenceMove (second : Bool) (inner : List Char) : Move :=
  match inner with
  | [] => endRound second ['&']
  | '#' :: number => (readNumberRef number).move second
  | c :: _ =>
    if c.isAlpha then (readNameRef second inner).move second else .goOn [.text] second inner

/-- One step through a fragment: some text, and what begins behind it. -/
def move (second : Bool) (cs : List Char) : Move :=
  .after (textEvents (cs.takeWhile isPlain)) <|
    match cs.dropWhile isPlain with
    | [] => .stop []
    | c :: inner => if c = '<' then markupMove second inner else referenceMove second inner

/-- Goes through a fragment step by step. Each step goes on behind at least one character, or from
the first round to the second: that bounds the fuel. -/
def scanFrom (fuel : Nat) (second : Bool) (cs : List Char) : Option (List Event) :=
  match fuel with
  | 0 => some []
  | fuel + 1 =>
    match move second cs with
    | .goOn events second rest => (scanFrom fuel second rest).map (events ++ ·)
    | .stop events => some events
    | .refused => none

/-- The pieces of a fragment, or none where it is refused. -/
def events? (markup : List Char) : Option (List Event) :=
  scanFrom (markup.length + 2) false markup

end LinkIndex.Html

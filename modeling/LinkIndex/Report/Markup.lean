import LinkIndex.Report.Emoji
import LinkIndex.Report.Markup.Style

/-!
The markup of tables. Tags in square brackets open and close styles and are not
shown; a backslash in front of a tag shows it as it stands. Where no colours are
shown, all that is left of markup is its text.
-/

namespace LinkIndex.Report

/-- A stretch of markup: text, or a tag with the place where it stands. -/
inductive Piece
  | text (text : List Char)
  | tag (place : Nat) (name : List Char) (parameter : Option (List Char))

inductive MarkupError
  | notOpen (tag : String) (place : Nat)
  | nothingToClose (place : Nat)
  | number (error : Whole.Error)
  deriving DecidableEq, Repr

def MarkupError.message : MarkupError → String
  | .notOpen tag place =>
    "closing tag '" ++ tag ++ "' at position " ++ toString place ++ " doesn't match any open tag"
  | .nothingToClose place =>
    "closing tag '[/]' at position " ++ toString place ++ " has nothing to close"
  | .number error => error.message

/-- The characters that a tag begins with. -/
def startsTag (c : Char) : Bool :=
  ('a' ≤ c && c ≤ 'z') || c = '#' || c = '/' || c = '@'

/-- The text of a tag behind its bracket, and what follows the tag. -/
def tag? : List Char → Option (List Char × List Char)
  | [] => none
  | c :: rest =>
    let inner := rest.takeWhile fun d => d ≠ ']' && d ≠ '['
    if startsTag c then
      match rest.drop inner.length with
      | ']' :: after => some (c :: inner, after)
      | _ => none
    else none

/-- The name of a tag, and what stands behind an equals sign. -/
def splitTag (place : Nat) (text : List Char) : Piece :=
  let name := text.takeWhile (· ≠ '=')
  match text.drop name.length with
  | [] => .tag place name none
  | _ :: parameter => .tag place name (some parameter)

/-- A tag with the backslashes in front of it. Two of them stand for one; one that is left over
makes the tag text. -/
def escaped (place backslashes : Nat) (text : List Char) : List Piece :=
  let shown := if backslashes < 2 then [] else [.text (List.replicate (backslashes / 2) '\\')]
  if backslashes % 2 = 1 then shown ++ [.text ('[' :: text ++ [']'])]
  else shown ++ [splitTag (place + backslashes) text]

/-- Puts a character in front of pieces. -/
def consText (c : Char) : List Piece → List Piece
  | .text text :: rest => .text (c :: text) :: rest
  | pieces => .text [c] :: pieces

/-- The tag in front of which a text stands, counting the backslashes before its bracket, and what
follows the tag. -/
def escapedTag? (cs : List Char) : Option (Nat × List Char × List Char) :=
  let backslashes := (cs.takeWhile (· = '\\')).length
  match cs.drop backslashes with
  | '[' :: rest => (tag? rest).map fun (text, after) => (backslashes, text, after)
  | _ => none

/-- The pieces of markup from a place on. Text between tags stays in one piece. -/
def piecesFrom : Nat → Nat → List Char → List Piece
  | 0, _, cs => [.text cs]
  | _, _, [] => []
  | fuel + 1, place, c :: rest =>
    match escapedTag? (c :: rest) with
    | some (backslashes, text, after) =>
      .text [] :: escaped place backslashes text ++
        piecesFrom fuel (place + backslashes + text.length + 2) after
    | none => consText c (piecesFrom fuel (place + 1) rest)

def pieces (markup : List Char) : List Piece :=
  piecesFrom markup.length 0 markup

/-- Controls that are never shown. -/
def isHidden (c : Char) : Bool :=
  [0x7, 0x8, 0xB, 0xC, 0xD].contains c.toNat

/-- A text without the controls that are never shown. -/
def visible (text : List Char) : List Char :=
  text.filter (!isHidden ·)

/-- A backslash in front of a bracket that opens no tag is left out. -/
def unescapeBrackets : List Char → List Char
  | [] => []
  | '\\' :: '[' :: rest => '[' :: unescapeBrackets rest
  | c :: rest => c :: unescapeBrackets rest

def shownText (text : List Char) : List Char :=
  visible (withEmoji (unescapeBrackets text))

def tagText (name : List Char) (parameter : Option (List Char)) : String :=
  "[" ++ String.ofList name ++ parameter.elim "" (fun p => "=" ++ String.ofList p) ++ "]"

/-- The open styles behind a tag. A tag with a slash closes the innermost style of its name, or the
innermost one of all. -/
def applyTag (isOpen : List String) (place : Nat) (name : List Char)
    (parameter : Option (List Char)) : Except MarkupError (List String) :=
  match name with
  | '/' :: closing =>
    if Text.isBlankText closing then
      match isOpen with
      | _ :: rest => .ok rest
      | [] => .error (.nothingToClose place)
    else
      match normalName (Text.trim closing) with
      | .error e => .error (.number e)
      | .ok style =>
        if isOpen.contains style then .ok (isOpen.erase style)
        else .error (.notOpen (tagText name parameter) place)
  | _ =>
    match normalName name with
    | .error e => .error (.number e)
    | .ok style => .ok (style :: isOpen)

/-- The text that pieces show, the open styles being given. -/
def showPieces : List String → List Piece → Except MarkupError (List Char)
  | _, [] => .ok []
  | isOpen, .text text :: rest =>
    match showPieces isOpen rest with
    | .ok shown => .ok (shownText text ++ shown)
    | .error e => .error e
  | isOpen, .tag place name parameter :: rest =>
    match applyTag isOpen place name parameter with
    | .ok isOpen => showPieces isOpen rest
    | .error e => .error e

def showMarkup (markup : List Char) : Except MarkupError (List Char) :=
  showPieces [] (pieces markup)

end LinkIndex.Report

import LinkIndex.Html.CharRef
import LinkIndex.Text.Lowercase

/-!
The start tags of an HTML fragment, from their name on. A tag may be broken off by the
end of the fragment, or turn out to be text; and one with a numeric reference in its
values that cannot be counted is refused.
-/

namespace LinkIndex.Html

/-- A start tag: its name and the names of its attributes in lower case. An attribute may
stand without a value. -/
structure StartTag where
  name : List Char
  attributes : List (List Char × Option (List Char))
  deriving DecidableEq, Repr

def isTagNameChar (c : Char) : Bool :=
  !(c = '\t' || c = '\n' || c = '\r' || c = '\x0c' || c = ' ' || c = '/' || c = '>' ||
    c.toNat = 0)

/-- Passes over blanks and over slashes that do not close the tag. -/
def skipFiller : List Char → List Char
  | '/' :: '>' :: rest => '/' :: '>' :: rest
  | c :: rest => if isBlank c || c = '/' then skipFiller rest else c :: rest
  | [] => []

/-- A quoted value: the text up to the closing mark, and what follows it. -/
def quotedValue (mark : Char) (cs : List Char) : Option (List Char × List Char) :=
  match cs.dropWhile (· ≠ mark) with
  | _ :: rest => some (cs.takeWhile (· ≠ mark), rest)
  | [] => none

def isBareValueChar (c : Char) : Bool :=
  !(c = '>' || isBlank c)

def bareValue (cs : List Char) : List Char × List Char :=
  (cs.takeWhile isBareValueChar, cs.dropWhile isBareValueChar)

/-- The value behind the name of an attribute, if there is one, and what follows it. Several
equality signs count as one. Where a mark opens no quoted value, the value is empty before the
blank in front of the mark, or begins with the last of several equality signs. -/
def attributeValue (cs : List Char) : Option (List Char) × List Char :=
  let signs := cs.dropWhile isBlank
  match signs.takeWhile (· = '=') with
  | [] => (none, cs)
  | equals =>
    let gap := signs.dropWhile (· = '=')
    let start := gap.dropWhile isBlank
    let whole : Option (List Char × List Char) := match start with
      | '\'' :: rest => quotedValue '\'' rest
      | '"' :: rest => quotedValue '"' rest
      | _ => some (bareValue start)
    match whole with
    | some (value, rest) => (some value, rest)
    | none =>
      if start.length < gap.length then
        (some [], gap.drop (gap.length - start.length - 1))
      else if 1 < equals.length then
        let (value, rest) := bareValue ('=' :: start)
        (some value, rest)
      else (none, cs)

def startsAttribute (before c : Char) : Bool :=
  (before = '\'' || before = '"' || before = '/' || isBlank before) &&
    !(isBlank c || c = '/' || c = '>')

def isAttributeNameChar (c : Char) : Bool :=
  !(isBlank c || c = '/' || c = '=' || c = '>')

/-- The last of the characters by which `rest` is shorter than `cs`, or `before` if they are
equal. -/
def lastConsumed (before : Char) (cs rest : List Char) : Char :=
  ((cs.take (cs.length - rest.length)).getLast?).getD before

/-- Reads attributes, with their values as they are written; each one takes at least one
character, which bounds the fuel. `before` is the character in front of `cs`. -/
def readAttributes (fuel : Nat) (before : Char) (cs : List Char) :
    List (List Char × Option (List Char)) × List Char :=
  match fuel, cs with
  | fuel + 1, c :: rest =>
    if startsAttribute before c then
      let name := c :: rest.takeWhile isAttributeNameChar
      let afterName := rest.dropWhile isAttributeNameChar
      let (value, afterValue) := attributeValue afterName
      let next := skipFiller afterValue
      let (attributes, rest) := readAttributes fuel (lastConsumed c cs next) next
      ((lowercase name, value) :: attributes, rest)
    else ([], cs)
  | _, cs => ([], cs)

inductive TagEnd
  | open (tag : StartTag) (rest : List Char)
  | closed (tag : StartTag) (rest : List Char)
  | broken
  | text (rest : List Char)
  | refused

/-- Characters at which a tag is taken to be broken off. -/
def breaksTag (c : Char) : Bool :=
  c.isAlpha || c = '=' || c = '/'

/-- Reads a tag from its name on. The references in its values are decoded once its end is
found, and all of them have to be countable. -/
def readTag (cs : List Char) : TagEnd :=
  let name := cs.takeWhile isTagNameChar
  let afterName := cs.dropWhile isTagNameChar
  let start := skipFiller afterName
  let (attributes, rest) :=
    readAttributes start.length (lastConsumed (name.getLastD '<') afterName start) start
  let tag : StartTag := ⟨lowercase name, attributes.map fun (n, v) => (n, v.map unescape)⟩
  let countable := attributes.all fun (_, v) => v.all isCountable
  match rest with
  | '>' :: rest => if countable then .open tag rest else .refused
  | '/' :: '>' :: rest => if countable then .closed tag rest else .refused
  | [] => .broken
  | c :: rest =>
    if breaksTag c then .broken else if countable then .text (c :: rest) else .refused

end LinkIndex.Html

import LinkIndex.Text.Blank

/-!
Raw markup inside of Markdown: single tags, comments and the like inside a line of
text, and the lines with which blocks of markup begin and end.
-/

namespace LinkIndex.Markdown

def isTagChar (c : Char) : Bool :=
  c.isAlphanum || c = '-'

def tagName? : List Char → Option (List Char × List Char)
  | c :: rest =>
    if c.isAlpha then some (c :: rest.takeWhile isTagChar, rest.dropWhile isTagChar) else none
  | [] => none

/-- Where tags may break lines: between attributes and inside their values, or nowhere. -/
structure TagStyle where
  /-- Blanks between attributes. -/
  isGap : Char → Bool
  /-- Blanks in front of the end of a tag. -/
  isTail : Char → Bool
  /-- Characters in a quoted value. -/
  inValue : Char → Bool

def TagStyle.inText : TagStyle :=
  ⟨isBlank, (· = ' '), fun _ => true⟩

def TagStyle.onLine : TagStyle :=
  ⟨fun c => isBlank c && c ≠ '\n', fun c => isBlank c && c ≠ '\n', (· ≠ '\n')⟩

def isAttributeStart (c : Char) : Bool :=
  c.isAlpha || c = ':' || c = '_'

def isAttributeChar (c : Char) : Bool :=
  isTagChar c || c = ':' || c = '_' || c = '.'

def isBareChar (c : Char) : Bool :=
  !(isBlank c || "\"'=<>`".toList.contains c)

/-- What follows the value of an attribute. -/
def afterValue? (style : TagStyle) : List Char → Option (List Char)
  | [] => none
  | c :: rest =>
    if c = '"' ∨ c = '\'' then
      let inside := rest.takeWhile (· ≠ c)
      match rest.drop inside.length with
      | _ :: after => if inside.all style.inValue then some after else none
      | [] => none
    else if isBareChar c then some (rest.dropWhile isBareChar)
    else none

/-- What follows an attribute, with the gap in front of it. -/
def afterAttribute? (style : TagStyle) (cs : List Char) : Option (List Char) :=
  match cs with
  | [] => none
  | g :: _ =>
    if style.isGap g then
      match cs.dropWhile style.isGap with
      | c :: rest =>
        if isAttributeStart c then
          let rest := rest.dropWhile isAttributeChar
          match rest.dropWhile style.isGap with
          | '=' :: value => some ((afterValue? style (value.dropWhile style.isGap)).getD rest)
          | _ => some rest
        else none
      | [] => none
    else none

/-- What follows all the attributes of a tag. -/
def afterAttributes (style : TagStyle) : Nat → List Char → List Char
  | 0, cs => cs
  | fuel + 1, cs =>
    match afterAttribute? style cs with
    | some rest => afterAttributes style fuel rest
    | none => cs

def afterOpenTag? (style : TagStyle) (cs : List Char) : Option (List Char) :=
  match tagName? cs with
  | none => none
  | some (_, rest) =>
    match (afterAttributes style rest.length rest).dropWhile style.isTail with
    | '/' :: '>' :: after => some after
    | '>' :: after => some after
    | _ => none

/-- What follows a closing tag, behind its angle and slash. -/
def afterCloseTag? (style : TagStyle) (cs : List Char) : Option (List Char) :=
  match tagName? cs with
  | none => none
  | some (_, rest) =>
    match rest.dropWhile style.isTail with
    | '>' :: after => some after
    | _ => none

/-- What follows the first occurrence of `mark`. -/
def after? (mark : List Char) : List Char → Option (List Char)
  | [] => if mark = [] then some [] else none
  | c :: rest =>
    match Text.dropPrefix? mark (c :: rest) with
    | some after => some after
    | none => after? mark rest

/-- What follows a piece of markup inside of a text. -/
def afterMarkup? : List Char → Option (List Char)
  | '<' :: '/' :: rest => afterCloseTag? .inText rest
  | '<' :: '!' :: '-' :: '-' :: '>' :: rest => some rest
  | '<' :: '!' :: '-' :: '-' :: '-' :: '>' :: rest => some rest
  | '<' :: '!' :: '-' :: '-' :: rest => after? "-->".toList rest
  | '<' :: '!' :: '[' :: 'C' :: 'D' :: 'A' :: 'T' :: 'A' :: '[' :: rest => after? "]]>".toList rest
  | '<' :: '!' :: c :: rest => if c.isAlpha then after? [ '>' ] rest else none
  | '<' :: '?' :: rest => after? "?>".toList rest
  | '<' :: rest => afterOpenTag? .inText rest
  | _ => none

/-- How a block of markup ends: with a line that holds a mark, in any case, or before a blank
line. One that is a single tag does not break into a text. -/
inductive MarkupEnd
  | mark (mark : List Char)
  | blankLine
  | blankLineApart
  deriving DecidableEq, Repr

/-- Elements whose content is raw up to the end tag. -/
def rawElements : List String :=
  ["script", "pre", "style", "textarea"]

/-- Elements that begin a block of markup wherever they stand at the start of a line. -/
def blockElements : List String :=
  ["address", "article", "aside", "base", "basefont", "blockquote", "body", "caption", "center",
   "col", "colgroup", "dd", "details", "dialog", "dir", "div", "dl", "dt", "fieldset",
   "figcaption", "figure", "footer", "form", "frame", "frameset", "h1", "h2", "h3", "h4", "h5",
   "h6", "head", "header", "hr", "html", "iframe", "legend", "li", "link", "main", "menu",
   "menuitem", "nav", "noframes", "ol", "optgroup", "option", "p", "param", "search", "section",
   "summary", "table", "tbody", "td", "tfoot", "th", "thead", "title", "tr", "track", "ul"]

def lowerAscii (cs : List Char) : String :=
  String.ofList (cs.map Char.toLower)

def endsBlockTag : List Char → Bool
  | [] => true
  | '\n' :: _ => true
  | ' ' :: _ => true
  | '>' :: _ => true
  | '/' :: '>' :: _ => true
  | _ => false

def endsRawTag : List Char → Bool
  | [] => true
  | c :: _ => isBlank c || c = '>'

/-- Whether only blanks are left of a line. -/
def isLineEnd (cs : List Char) : Bool :=
  (cs.takeWhile (· ≠ '\n')).all isBlank

/-- The end of a block of markup that begins with a single tag, if the line holds nothing else. -/
def tagAlone? (cs : List Char) : Option MarkupEnd :=
  let after := match cs with
    | '/' :: rest => afterCloseTag? .onLine rest
    | _ => afterOpenTag? .onLine cs
  match after with
  | some rest => if isLineEnd rest then some .blankLineApart else none
  | none => none

/-- The end of a block of markup that begins with a tag, behind its angle. -/
def tagBlock? (cs : List Char) : Option MarkupEnd :=
  let (closing, body) := match cs with
    | '/' :: rest => (true, rest)
    | _ => (false, cs)
  match tagName? body with
  | none => none
  | some (name, rest) =>
    let lower := lowerAscii name
    if !closing && rawElements.contains lower && endsRawTag rest then
      some (.mark ("</".toList ++ lower.toList ++ [ '>' ]))
    else if blockElements.contains lower && endsBlockTag rest then some .blankLine
    else tagAlone? cs

/-- The end of the block of markup that a line without indentation begins. -/
def markupBlock? : List Char → Option MarkupEnd
  | '<' :: '!' :: '-' :: '-' :: _ => some (.mark "-->".toList)
  | '<' :: '?' :: _ => some (.mark "?>".toList)
  | '<' :: '!' :: _ => some (.mark [ '>' ])
  | '<' :: rest => tagBlock? rest
  | _ => none

def MarkupEnd.holds (stop : MarkupEnd) (line : List Char) : Bool :=
  match stop with
  | .mark m => (after? m (line.map Char.toLower)).isSome
  | .blankLine => Text.isBlankText line
  | .blankLineApart => Text.isBlankText line

end LinkIndex.Markdown

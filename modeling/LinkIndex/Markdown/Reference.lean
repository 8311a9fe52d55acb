import LinkIndex.Assoc
import LinkIndex.Html.CharRef
import LinkIndex.Text.Fold
import LinkIndex.Text.Punctuation

/-!
The parts of links: labels, destinations and titles, and the definitions that give
a label a destination. Labels are compared without regard to case and to the
amount of blank in them.
-/

namespace LinkIndex.Markdown

/-- Leaves out the backslashes in front of punctuation. -/
def dropEscapes : List Char → List Char
  | '\\' :: c :: rest =>
    if isAsciiPunctuation c then c :: dropEscapes rest else '\\' :: dropEscapes (c :: rest)
  | c :: rest => c :: dropEscapes rest
  | [] => []
  termination_by cs => cs.length

/-- The text that a destination or a title stands for. -/
def plainText (raw : List Char) : Except Html.Overlong String :=
  String.ofList <$> Html.decode (dropEscapes raw)

/-- The form in which labels are compared. -/
def normalizeLabel (label : List Char) : List Char :=
  foldCase (Text.join [ ' ' ] (Text.words label))

/-- The text up to an unescaped character that satisfies `stop`, and what follows from there on;
none if an unescaped character that satisfies `bad` comes first, or if there is none. -/
def upTo? (stop bad : Char → Bool) : List Char → Option (List Char × List Char)
  | [] => none
  | ['\\'] => if stop '\\' then some ([], ['\\']) else none
  | '\\' :: c :: rest => (upTo? stop bad rest).map fun (cs, after) => ('\\' :: c :: cs, after)
  | c :: rest =>
    if stop c then some ([], c :: rest)
    else if bad c then none
    else (upTo? stop bad rest).map fun (cs, after) => (c :: cs, after)
  termination_by cs => cs.length

/-- A label between brackets, and what follows it. -/
def label? : List Char → Option (List Char × List Char)
  | '[' :: rest =>
    match upTo? (· = ']') (· = '[') rest with
    | some (label, _ :: after) => some (label, after)
    | _ => none
  | _ => none

/-- Puts characters in front of a text that was read. -/
def inFront (cs : List Char) (r : Option (List Char × List Char)) :
    Option (List Char × List Char) :=
  r.map fun (text, after) => (cs ++ text, after)

/-- A destination that is not in angles: parentheses in it are balanced. `depth` of them are
open. -/
def bareDestination? : Nat → List Char → Option (List Char × List Char)
  | depth, [] => if depth = 0 then some ([], []) else none
  | depth, '\\' :: e :: rest =>
    if isAsciiBlank e then inFront ['\\'] (bareDestination? depth (e :: rest))
    else inFront ['\\', e] (bareDestination? depth rest)
  | depth, c :: rest =>
    if isAsciiBlank c then if depth = 0 then some ([], c :: rest) else none
    else if c = '(' then inFront [c] (bareDestination? (depth + 1) rest)
    else if c = ')' then
      if depth = 0 then some ([], c :: rest) else inFront [c] (bareDestination? (depth - 1) rest)
    else inFront [c] (bareDestination? depth rest)
  termination_by _ cs => cs.length

def destination? : List Char → Option (List Char × List Char)
  | '<' :: rest =>
    match upTo? (· = '>') (fun c => c = '<' || c = '\n') rest with
    | some (dest, _ :: after) => some (dest, after)
    | _ => none
  | cs => bareDestination? 0 cs

/-- A title between marks, and what follows it. -/
def title? : List Char → Option (List Char × List Char)
  | c :: rest =>
    let found :=
      if c = '"' ∨ c = '\'' then upTo? (· = c) (fun _ => false) rest
      else if c = '(' then upTo? (· = ')') (· = '(') rest
      else none
    match found with
    | some (title, _ :: after) => some (title, after)
    | _ => none
  | [] => none

/-- A destination with a title, as they stand behind the text of a link. -/
structure Target where
  dest : List Char
  title : Option (List Char)
  deriving DecidableEq, Repr

def Target.titleText (t : Target) : Except Html.Overlong (Option String) :=
  match t.title with
  | none => .ok none
  | some [] => .ok none
  | some raw => some <$> plainText raw

/-- The target between parentheses, and what follows them. -/
def inlineTarget? : List Char → Option (Target × List Char)
  | '(' :: rest =>
    match destination? (rest.dropWhile isAsciiBlank) with
    | none => none
    | some (dest, rest) =>
      let close (title : Option (List Char)) (cs : List Char) : Option (Target × List Char) :=
        match cs.dropWhile isAsciiBlank with
        | ')' :: after => some (⟨dest, title⟩, after)
        | _ => none
      let gap := rest.dropWhile isAsciiBlank
      if gap.length < rest.length then
        match title? gap with
        | some (title, after) => close (some title) after
        | none => close none gap
      else close none rest
  | _ => none

/-- A definition: the label in the form in which it is compared, and its target. -/
structure Definition where
  label : List Char
  target : Target
  deriving DecidableEq, Repr

def isGapChar (c : Char) : Bool :=
  isAsciiBlank c && c ≠ '\n'

/-- Passes over blanks with at most one line feed among them. -/
def skipGap (cs : List Char) : List Char :=
  match cs.dropWhile isGapChar with
  | '\n' :: rest => rest.dropWhile isGapChar
  | rest => rest

/-- What follows the end of a line, if only blanks stand before it. -/
def afterLine? (cs : List Char) : Option (List Char) :=
  match cs.dropWhile isGapChar with
  | [] => some []
  | '\n' :: rest => some rest
  | _ => none

def holdsBlankLine : List Char → Bool
  | [] => false
  | '\n' :: rest => (rest.dropWhile isGapChar).head? = some '\n' || holdsBlankLine rest
  | _ :: rest => holdsBlankLine rest

def titleLine? (cs : List Char) : Option (List Char × List Char) :=
  let gap := skipGap cs
  if gap.length < cs.length then
    match title? gap with
    | some (title, rest) =>
      if holdsBlankLine title then none else (afterLine? rest).map (title, ·)
    | none => none
  else none

/-- A definition at the start of a text, and the lines that follow it. -/
def definition? (cs : List Char) : Option (Definition × List Char) :=
  match label? cs with
  | some (label, ':' :: rest) =>
    if Text.isBlankText label then none
    else
      let gap := skipGap rest
      match destination? gap with
      | none => none
      | some (dest, rest) =>
        if rest.length = gap.length then none
        else
          let label := normalizeLabel label
          match titleLine? rest with
          | some (title, after) => some (⟨label, ⟨dest, some title⟩⟩, after)
          | none => (afterLine? rest).map (⟨label, ⟨dest, none⟩⟩, ·)
  | _ => none

end LinkIndex.Markdown

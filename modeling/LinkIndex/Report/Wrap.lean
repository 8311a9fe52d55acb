import LinkIndex.Text.Blank
import LinkIndex.Text.Width

/-!
Fitting text into lines of a given width. Lines break between words; a word that is
wider than a line is folded, or cut with an ellipsis at its end.
-/

namespace LinkIndex.Report

/-- What is done with a word that is wider than a line. -/
inductive Overflow
  | fold
  | ellipsis
  deriving DecidableEq, Repr

/-- Cuts a text in front of every word that follows a blank. -/
def cutBeforeWords : List Char → List (List Char)
  | [] => []
  | c :: rest =>
    match cutBeforeWords rest with
    | [] => [[c]]
    | piece :: others =>
      if isBlank c && !rest.head?.any isBlank then [c] :: piece :: others
      else (c :: piece) :: others

/-- The words of a text, each with the blanks behind it, and the first one also with those in front
of it. -/
def spacedWords (text : List Char) : List (List Char) :=
  match cutBeforeWords text with
  | first :: second :: others =>
    if Text.isBlankText first then (first ++ second) :: others else first :: second :: others
  | [only] => if Text.isBlankText only then [] else [only]
  | [] => []

/-- As many characters as fit into a width, and the rest. -/
def splitWidth (width : Nat) : List Char → List Char × List Char
  | [] => ([], [])
  | c :: rest =>
    if Text.cellsOf c ≤ width then
      let (front, behind) := splitWidth (width - Text.cellsOf c) rest
      (c :: front, behind)
    else ([], c :: rest)

/-- Cuts a word into pieces that fill a width. -/
def foldWord (width : Nat) : Nat → List Char → List (List Char)
  | 0, cs => [cs]
  | fuel + 1, cs =>
    match splitWidth width cs with
    | (front, []) => [front]
    | (front, behind) => front :: foldWord width fuel behind

/-- Lines under construction: those that are complete, the last one first, and the one at hand. -/
structure Lines where
  complete : List (List Char) := []
  current : List Char := []

def Lines.begin (l : Lines) (text : List Char) : Lines :=
  if l.current = [] then { l with current := text }
  else { complete := l.current :: l.complete, current := text }

/-- Adds a word. Its blanks at the end need not fit. -/
def Lines.add (overflow : Overflow) (width : Nat) (l : Lines) (word : List Char) : Lines :=
  let needed := Text.cells (Text.trimEndBy isBlank word)
  if Text.cells l.current + needed ≤ width then { l with current := l.current ++ word }
  else if width < needed ∧ overflow = .fold then
    (foldWord width word.length word).foldl Lines.begin l
  else l.begin word

def breakLine (overflow : Overflow) (width : Nat) (line : List Char) : List (List Char) :=
  match spacedWords line with
  | [] => [line]
  | words =>
    let l := words.foldl (Lines.add overflow width) {}
    (l.current :: l.complete).reverse

def tabWidth : Nat := 8

/-- Writes tabs as blanks up to the next tab stop, the text standing at a place. -/
def expandTabs (place : Nat) : List Char → List Char
  | [] => []
  | '\t' :: rest =>
    let blanks := tabWidth - place % tabWidth
    List.replicate blanks ' ' ++ expandTabs (place + blanks) rest
  | c :: rest => c :: expandTabs (place + Text.cellsOf c) rest

/-- Leaves out blanks at the end of a line that has more characters than its width. -/
def dropExcessBlanks (width : Nat) (line : List Char) : List Char :=
  let blanks := line.length - (Text.trimEndBy isBlank line).length
  line.take (line.length - min blanks (line.length - width))

/-- The beginning of a text that fills a width, searched for by halves between two places. Where
half a character would stand there is a blank. Of several beginnings, which differ by characters
without width, the one is taken that the search comes to first. -/
def searchWidth (width : Nat) (text : List Char) : Nat → Nat → Nat → List Char
  | 0, _, _ => []
  | fuel + 1, low, high =>
    let middle := (low + high) / 2
    let front := text.take (middle + 1)
    if Text.cells front = width + 1 ∧ front.getLast?.any (Text.cellsOf · = 2) then
      front.dropLast ++ [' ']
    else if Text.cells front = width then front
    else if width < Text.cells front then searchWidth width text fuel low middle
    else searchWidth width text fuel middle high

/-- A text cut to a width that it exceeds. -/
def cutTo (width : Nat) (text : List Char) : List Char :=
  if width = 0 then [] else searchWidth width text text.length 0 text.length

/-- A line, cut if it exceeds a width. -/
def crop (overflow : Overflow) (width : Nat) (line : List Char) : List Char :=
  if Text.cells line ≤ width then line
  else match overflow with
    | .fold => cutTo width line
    | .ellipsis => cutTo (width - 1) line ++ ['…']

/-- The lines of a text, each within a width. -/
def wrap (overflow : Overflow) (width : Nat) (text : List Char) : List (List Char) :=
  (Text.lines text).flatMap fun line =>
    (breakLine overflow width (expandTabs 0 line)).map fun l =>
      crop overflow width (dropExcessBlanks width l)

end LinkIndex.Report

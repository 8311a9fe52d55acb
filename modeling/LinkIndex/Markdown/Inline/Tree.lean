import LinkIndex.Markdown.Inline.Link
import LinkIndex.Tree.Basic

/-!
The spans of a text as trees. Spans that overlap are settled from left to right:
one that lies inside of the text of another belongs to it, one in the rest of it is
dropped, and of two that cross the one of higher rank stays. The text between the
spans stands for itself.
-/

namespace LinkIndex.Markdown

/-- Whether a span lies inside of the text of another. -/
def Span.contains (s t : Span) : Bool :=
  s.mark.holdsSpans && s.innerStart ≤ t.start && t.stop ≤ s.innerStop

/-- Whether a span lies in another behind its text. -/
def Span.shades (s t : Span) : Bool :=
  t.stop ≤ s.stop && s.innerStop ≤ t.start

/-- Settles the spans behind `last`, with those that belong to it in reverse. -/
def settleFrom (last : Span) (inside : List Span) : List Span → List (Span × List Span)
  | [] => [(last, inside.reverse)]
  | t :: rest =>
    if last.stop ≤ t.start then (last, inside.reverse) :: settleFrom t [] rest
    else if last.contains t then settleFrom last (t :: inside) rest
    else if last.shades t then settleFrom last inside rest
    else if last.mark.rank < t.mark.rank then settleFrom t [] rest
    else settleFrom last inside rest

/-- The spans that stay, each with those that belong to it. -/
def settle : List Span → List (Span × List Span)
  | [] => []
  | s :: rest => settleFrom s [] rest

def slice (text : Array Char) (start stop : Nat) : List Char :=
  (text.extract start stop).toList

def nonEmpty (s : String) : Option String :=
  if s = "" then none else some s

/-- The node of a span with its text and the nodes inside of it. Of a link the destination is
decoded first, of an image its description. -/
def nodeOf (mark : Mark) (raw : List Char) (children : Except Html.Overlong (List Tree)) :
    Except Html.Overlong Tree :=
  match mark with
  | .escaped c => return .text (String.singleton c)
  | .lineBreak false => return .text "\n"
  | .lineBreak true => return .element (.container "break") []
  | .markup => return .leaf (.html (String.ofList raw))
  | .code text => return .leaf (.literal "inlineCode" (String.ofList text))
  | .autolink dest text =>
    return .element (.link (String.ofList dest) none) [.text (String.ofList text)]
  | .emphasis => return .element (.container "emphasis") (← children)
  | .strong => return .element (.container "strong") (← children)
  | .link target => do
    let url ← plainText target.dest
    let title ← target.titleText
    return .element (.link url title) (← children)
  | .image target => do
    let alt := (Tree.root (← children)).flatten
    let url ← plainText target.dest
    return .leaf (.image url (nonEmpty alt) (← target.titleText))

/-- A piece of plain text, unless it is empty. -/
def textNode (text : Array Char) (start stop : Nat) : List Tree :=
  if start < stop then [.text (String.ofList (slice text start stop))] else []

/-- Puts the plain text from `start` up to `stop` around the nodes of spans. -/
def withTexts (text : Array Char) (stop : Nat) : Nat → List (Span × Tree) → List Tree
  | start, [] => textNode text start stop
  | start, (s, node) :: rest =>
    textNode text start s.start ++ node :: withTexts text stop s.stop rest

/-- A span that stays with its node, the nodes of its text being given by `inner`. -/
def spanNode (text : Array Char)
    (inner : Nat → Nat → List Span → Except Html.Overlong (List Tree)) (p : Span × List Span) :
    Except Html.Overlong (Span × Tree) := do
  let node ← nodeOf p.1.mark (slice text p.1.start p.1.stop)
    (inner p.1.innerStart p.1.innerStop p.2)
  return (p.1, node)

/-- The nodes of a text from `start` up to `stop`, by its spans. Every level takes one unit of
fuel. -/
def nodesBetween (text : Array Char) :
    Nat → Nat → Nat → List Span → Except Html.Overlong (List Tree)
  | 0, _, _, _ => .ok []
  | fuel + 1, start, stop, spans => do
    let nodes ← (settle spans).mapM (spanNode text (nodesBetween text fuel))
    return withTexts text stop start nodes

/-- All spans of a text, by their starts. -/
def spans (labels : Labels) (text : List Char) : List Span :=
  let (first, last) := leafSpans text
  (first ++ linkSpans labels text ++ last).mergeSort fun s t => s.start ≤ t.start

def nodes (labels : Labels) (text : List Char) : Except Html.Overlong (List Tree) :=
  let found := spans labels text
  nodesBetween text.toArray (found.length + 1) 0 text.length found

end LinkIndex.Markdown

import LinkIndex.Assoc
import LinkIndex.Html.Event

/-!
The tree of an HTML fragment. A start tag opens an element inside of the innermost one that
is open, and an end tag closes the innermost open element of its name together with all that
are open inside of it; where no element of the name is open, it closes nothing. Elements that
never hold anything are closed at once. What is open at the end of the fragment is closed
there.
-/

namespace LinkIndex.Html

/-- An element: its name and its attributes, one for each name. -/
structure Element where
  name : List Char
  attributes : Assoc (List Char) (List Char)
  deriving DecidableEq, Repr

/-- The element of a start tag. An attribute without a value has the empty one, and of several with
one name the last counts. -/
def StartTag.element (tag : StartTag) : Element :=
  ⟨tag.name, .ofList (tag.attributes.map fun (name, value) => (name, value.getD []))⟩

/-- A node of a fragment. What a text says is left out. -/
inductive Node
  | element (element : Element) (children : List Node)
  | text
  deriving Repr

namespace Node

mutual

/-- A node and all inside of it, in document order. -/
def descendants : Node → List Node
  | .element e children => .element e children :: descendantsAll children
  | .text => [.text]

/-- Nodes and all inside of them, in document order. -/
def descendantsAll : List Node → List Node
  | [] => []
  | node :: rest => descendants node ++ descendantsAll rest

end

def element? : Node → Option Element
  | .element e _ => some e
  | .text => none

/-- The elements of some nodes, in document order. -/
def elements (nodes : List Node) : List Element :=
  (descendantsAll nodes).filterMap element?

end Node

/-- Elements that never hold anything. -/
def voidNames : List (List Char) :=
  ["area", "base", "basefont", "bgsound", "br", "col", "command", "embed", "frame", "hr", "image",
    "img", "input", "isindex", "keygen", "link", "menuitem", "meta", "nextid", "param", "source",
    "spacer", "track", "wbr"].map String.toList

/-- An element that is open, with its children so far, the last one first. -/
structure OpenElement where
  element : Element
  children : List Node := []

/-- A tree that is being built: the elements that are open, the innermost one first; the nodes
outside of them, the last one first; and the names of void elements that were closed at once, each
of which makes good for one end tag. -/
structure Builder where
  opened : List OpenElement := []
  outside : List Node := []
  closedAtOnce : List (List Char) := []

namespace Builder

/-- Adds a node to the innermost open element. -/
def add (b : Builder) (node : Node) : Builder :=
  match b.opened with
  | [] => { b with outside := node :: b.outside }
  | o :: rest => { b with opened := { o with children := node :: o.children } :: rest }

def openElement (b : Builder) (element : Element) : Builder :=
  { b with opened := ⟨element, []⟩ :: b.opened }

/-- Closes the innermost open element. -/
def close (b : Builder) : Builder :=
  match b.opened with
  | [] => b
  | o :: rest => add { b with opened := rest } (.element o.element o.children.reverse)

def closeMany : Nat → Builder → Builder
  | 0, b => b
  | n + 1, b => closeMany n b.close

/-- Closes the innermost open element of a name, with all that are open inside of it. -/
def closeNamed (b : Builder) (name : List Char) : Builder :=
  match b.opened.findIdx? (·.element.name = name) with
  | some i => closeMany (i + 1) b
  | none => b

/-- An end tag closes an element, unless a void element of its name was closed before it came. -/
def endTag (b : Builder) (name : List Char) : Builder :=
  if name ∈ b.closedAtOnce then { b with closedAtOnce := b.closedAtOnce.erase name }
  else b.closeNamed name

/-- Takes up a piece of a fragment. A decimal number that is too long to be read is refused. -/
def step (b : Builder) : Event → Option Builder
  | .opening tag =>
    let b := b.openElement tag.element
    some (if tag.name ∈ voidNames then
      { b.closeNamed tag.name with closedAtOnce := tag.name :: b.closedAtOnce }
    else b)
  | .selfClosing tag => some ((b.openElement tag.element).endTag tag.name)
  | .closing name => some (b.endTag name)
  | .number digits => if isCountedBy digits then some (b.add .text) else none
  | .text => some (b.add .text)

/-- Takes up pieces one after the other. -/
def run (b : Builder) : List Event → Option Builder
  | [] => some b
  | event :: rest => (b.step event).bind fun b => b.run rest

/-- The nodes of the tree once all elements are closed. -/
def nodes (b : Builder) : List Node :=
  (closeMany b.opened.length b).outside.reverse

end Builder

/-- The tree of some pieces, if it can be built. -/
def build? (events : List Event) : Option (List Node) :=
  (Builder.run {} events).map Builder.nodes

/-- The tree of a fragment, unless it is refused. -/
def fragment? (markup : List Char) : Option (List Node) :=
  (events? markup).bind build?

end LinkIndex.Html

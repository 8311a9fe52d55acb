/-!
Document trees. A tree is a leaf or an element with children. Elements and leaves
of the kinds that hold headings, links or text have constructors of their own;
all others are carried by name as containers and literals.
-/

namespace LinkIndex

/-- The value of a JSX attribute: text, the source of an expression, or none at all. -/
inductive AttributeValue
  | text (value : String)
  | expression (source : String)
  | absent
  deriving DecidableEq, Repr

/-- A JSX attribute: a name with its value, or an expression that is spread. -/
inductive Attribute
  | named (name : String) (value : AttributeValue)
  | spread (source : String)
  deriving DecidableEq, Repr

/-- Whether a JSX element stands for itself or inside a line of text. -/
inductive JsxPlace
  | flow
  | text
  deriving DecidableEq, Repr

inductive Element
  | root
  | heading (depth : Int) (id : Option String)
  | link (url : String) (title : Option String)
  | reference (identifier : String) (label : Option String) (form : String)
  | jsx (place : JsxPlace) (name : Option String) (attributes : List Attribute)
  | container (kind : String)
  deriving DecidableEq, Repr

inductive Leaf
  | definition (identifier url : String) (label title : Option String)
  | html (value : String)
  | text (value : String)
  | image (url : String) (alt title : Option String)
  | literal (kind value : String)
  deriving DecidableEq, Repr

inductive Tree
  | leaf (leaf : Leaf)
  | element (element : Element) (children : List Tree)
  deriving Repr

def Element.kind : Element → String
  | .root => "root"
  | .heading .. => "heading"
  | .link .. => "link"
  | .reference .. => "linkReference"
  | .jsx .flow .. => "mdxJsxFlowElement"
  | .jsx .text .. => "mdxJsxTextElement"
  | .container kind => kind

def Leaf.kind : Leaf → String
  | .definition .. => "definition"
  | .html _ => "html"
  | .text _ => "text"
  | .image .. => "image"
  | .literal kind _ => kind

namespace Tree

instance : Inhabited Tree := ⟨.element .root []⟩

def kind : Tree → String
  | .leaf l => l.kind
  | .element e _ => e.kind

def root (children : List Tree) : Tree :=
  .element .root children

def text (value : String) : Tree :=
  .leaf (.text value)

mutual

def size : Tree → Nat
  | .leaf _ => 1
  | .element _ children => sizeAll children + 1

/-- The number of nodes of several trees. -/
def sizeAll : List Tree → Nat
  | [] => 0
  | t :: rest => size t + sizeAll rest

end

theorem sizeAll_append (ts us : List Tree) :
    sizeAll (ts ++ us) = sizeAll ts + sizeAll us := by
  induction ts with
  | nil => simp [sizeAll]
  | cons t rest ih => simp [sizeAll, ih, Nat.add_assoc]

/-- The nodes of the trees that are still pending, in document order. The next tree is taken
off the front, and its children take its place. -/
def walkPending : List Tree → List Tree
  | [] => []
  | .leaf l :: pending => .leaf l :: walkPending pending
  | .element e children :: pending => .element e children :: walkPending (children ++ pending)
  termination_by pending => sizeAll pending
  decreasing_by
    · simp [sizeAll, size]
    · simp [sizeAll_append, sizeAll, size]

/-- A node and all its descendants, in document order. -/
def walk (t : Tree) : List Tree :=
  walkPending [t]

/-- The text that a node contributes by itself: the value of text, markup and literals, and
the description of an image. -/
def ownText : Tree → String
  | .leaf (.text value) => value
  | .leaf (.html value) => value
  | .leaf (.literal _ value) => value
  | .leaf (.image _ alt _) => alt.getD ""
  | _ => ""

/-- The text of a tree, in document order. -/
def flatten (t : Tree) : String :=
  String.join (t.walk.map ownText)

end Tree

end LinkIndex

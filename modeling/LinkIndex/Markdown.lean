import LinkIndex.Markdown.Block.Reader
import LinkIndex.Markdown.Inline.Tree

/-!
Markdown documents as trees. Links by reference are resolved; of definitions with
one label the last counts, wherever it stands. Definitions stay in the tree, blank
lines do not.
-/

namespace LinkIndex.Markdown

mutual

/-- The labels that a block defines, added to those before it. -/
def labelsOf (labels : Labels) : Block → Labels
  | .definition d => labels.put d.label d.target
  | .quote blocks => labelsOfAll labels blocks
  | .list items => labelsOfItems labels items
  | .paragraph _ => labels
  | .heading _ _ => labels
  | .thematicBreak => labels
  | .code _ => labels
  | .markup _ => labels

def labelsOfAll (labels : Labels) : List Block → Labels
  | [] => labels
  | b :: rest => labelsOfAll (labelsOf labels b) rest

def labelsOfItems (labels : Labels) : List (List Block) → Labels
  | [] => labels
  | item :: rest => labelsOfItems (labelsOfAll labels item) rest

end

/-- A text without the line feeds at its end. -/
def trimLines (text : List Char) : String :=
  String.ofList (Text.trimEndBy (· = '\n') text)

def definitionNode (d : Definition) : Except Html.Overlong Tree := do
  let label := String.ofList d.label
  let url ← plainText d.target.dest
  return .leaf (.definition label url (some label) (← d.target.titleText))

def container (kind : String) (children : List Tree) : Tree :=
  .element (.container kind) children

mutual

def treeOf (labels : Labels) : Block → Except Html.Overlong Tree
  | .paragraph body => return container "paragraph" (← nodes labels body)
  | .heading level body => return .element (.heading level none) (← nodes labels body)
  | .thematicBreak => return container "thematicBreak" []
  | .code text => return .leaf (.literal "code" (trimLines text))
  | .markup text => return .leaf (.html (trimLines text))
  | .definition d => definitionNode d
  | .quote blocks => return container "blockquote" (← treesOf labels blocks)
  | .list items => return container "list" (← itemTrees labels items)

def treesOf (labels : Labels) : List Block → Except Html.Overlong (List Tree)
  | [] => return []
  | b :: rest => return (← treeOf labels b) :: (← treesOf labels rest)

def itemTrees (labels : Labels) : List (List Block) → Except Html.Overlong (List Tree)
  | [] => return []
  | item :: rest =>
    return container "listItem" (← treesOf labels item) :: (← itemTrees labels rest)

end

/-- The tree of a document, if every number in its destinations and titles can be read. -/
def parse (text : String) : Except Html.Overlong Tree := do
  let found := blocks text.toList
  return .root (← treesOf (labelsOfAll [] found) found)

end LinkIndex.Markdown

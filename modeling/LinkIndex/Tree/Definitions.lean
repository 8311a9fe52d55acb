import LinkIndex.Assoc
import LinkIndex.Tree.Basic

/-!
The definitions of a document: for each identifier the URL of its last definition
in document order, wherever in the tree that stands.
-/

namespace LinkIndex

abbrev Definitions := Assoc String String

namespace Definitions

/-- Takes up the definition that a node makes, if it makes one. -/
def note (definitions : Definitions) : Tree → Definitions
  | .leaf (.definition identifier url _ _) => definitions.put identifier url
  | _ => definitions

def ofTree (t : Tree) : Definitions :=
  t.walk.foldl note []

end Definitions

end LinkIndex

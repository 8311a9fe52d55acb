import LinkIndex.Assoc
import LinkIndex.Extract.Links
import LinkIndex.Text.Quoted

/-!
The results of many documents, by the key of the document. A key that is recorded
again takes the new results. Where they come from another source, that is told,
for then the results of another document are lost.
-/

namespace LinkIndex

/-- Headings and links by document. Only documents with external links have an entry among
those. -/
structure LinkData where
  headings : Assoc String (List String) := []
  internal : Assoc String (List String) := []
  external : Assoc String (List String) := []
  deriving DecidableEq, Repr

def LinkData.isEmpty (d : LinkData) : Bool :=
  d.headings.isEmpty && d.internal.isEmpty && d.external.isEmpty

/-- Recorded results, and from which source each key was recorded last. -/
structure Store where
  data : LinkData := {}
  sources : Assoc String (Option String) := []
  deriving DecidableEq, Repr

/-- A key was recorded from a new source: the results of the old one are lost. -/
structure Overwrite where
  slug : String
  new : Option String
  old : Option String
  deriving DecidableEq, Repr

def sourceName (source : Option String) : String :=
  source.getD "None"

def Overwrite.message (o : Overwrite) : String :=
  "Duplicate document slug " ++ quoted o.slug ++ ": " ++ sourceName o.new ++ " overwrites " ++
    sourceName o.old

namespace Store

/-- The overwriting that a recording would be, if the key came from another source. -/
def overwriteOf? (s : Store) (slug : String) (source : Option String) : Option Overwrite :=
  match s.sources.get? slug with
  | some old => if old = source then none else some ⟨slug, source, old⟩
  | none => none

/-- Records the results of a document under a key. -/
def record (s : Store) (slug : String) (links : Links) (source : Option String) : Store where
  data :=
    { headings := s.data.headings.put slug links.headings
      internal := s.data.internal.put slug links.internal
      external :=
        if links.external = [] then s.data.external.erase slug
        else s.data.external.put slug links.external }
  sources := s.sources.put slug source

def reset (_ : Store) : Store := {}

/-- The number of recorded documents. -/
def size (s : Store) : Nat :=
  s.data.headings.length

def has (s : Store) (slug : String) : Bool :=
  s.data.headings.has slug

end Store

end LinkIndex

import LinkIndex.Slug.Document
import LinkIndex.Yaml.Construct

/-!
Frontmatter: a YAML block between two delimiter lines at the start of a document.
A document whose first line is no delimiter, or where no line closes the block,
has no frontmatter, and all of it is its body.
-/

namespace LinkIndex

abbrev Frontmatter := List (Yaml.Value × Yaml.Value)

namespace Frontmatter

/-- The line in front of the block and the one behind it. -/
def delimiter : List Char := "---".toList

/-- Blanks around a delimiter do not matter. -/
def isDelimiter (line : List Char) : Bool :=
  Text.trim line = delimiter

/-- The lines in front of the first delimiter, and those behind it. -/
def cutAtDelimiter : List (List Char) → Option (List (List Char) × List (List Char))
  | [] => none
  | line :: rest =>
    if isDelimiter line then some ([], rest)
    else (cutAtDelimiter rest).map fun (block, body) => (line :: block, body)

/-- The block of a document and its body, where the document starts with a block. -/
def split? (content : List Char) : Option (List Char × List Char) :=
  match Text.lines (Text.joinCrLf content) with
  | [] => none
  | first :: rest =>
    if isDelimiter first then
      (cutAtDelimiter rest).map fun (block, body) => (Text.unlines block, Text.unlines body)
    else none

/-- Loads a block. One that is empty or no map counts as an empty map. -/
def load (block : List Char) : Except Yaml.Error Frontmatter :=
  match Yaml.parse block with
  | .error e => .error e
  | .ok (some (.map pairs)) => .ok pairs
  | .ok _ => .ok []

/-- The frontmatter and the body of a document. -/
def parse (content : List Char) : Except Yaml.Error (Frontmatter × List Char) :=
  match split? content with
  | none => .ok ([], content)
  | some (block, body) =>
    match load block with
    | .ok frontmatter => .ok (frontmatter, body)
    | .error e => .error e

def get? (f : Frontmatter) (key : String) : Option Yaml.Value :=
  Yaml.Value.lookup? f key

/-- Whether the document is marked as a draft. -/
def isDraft (f : Frontmatter) : Bool :=
  (f.get? "draft").any fun v => !v.isFalsy

/-- The slug, if it is a text. -/
def slug? (f : Frontmatter) : Option String :=
  match f.get? "slug" with
  | some (.str s) => some s
  | _ => none

def documentSlug? (f : Frontmatter) : Option String :=
  f.slug?.bind Slug.ofFrontmatter?

end Frontmatter

end LinkIndex

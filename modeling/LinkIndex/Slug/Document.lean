import LinkIndex.Text.Blank

/-!
The keys of documents: a slug from the frontmatter without the slash at its end,
or the path of the file without its extension and without the directory that
paths are taken relative to. A document without a path is given a numbered name.
-/

namespace LinkIndex.Slug

def documentExtensions : List (List Char) :=
  [".mdast.json".toList, ".mdx".toList, ".md".toList]

/-- A text and the line feed at its very end, which the rules about endings pass over. -/
def splitFinalLineFeed (text : List Char) : List Char × List Char :=
  match Text.dropSuffix? ['\n'] text with
  | some body => (body, ['\n'])
  | none => (text, [])

/-- Takes off the first of the endings that the text has. -/
def dropFirstEnding (endings : List (List Char)) (text : List Char) : List Char :=
  (endings.findSome? fun e => Text.dropSuffix? e text).getD text

/-- Takes off an ending, also in front of a final line feed. -/
def dropEnding (endings : List (List Char)) (text : List Char) : List Char :=
  let (body, tail) := splitFinalLineFeed text
  dropFirstEnding endings body ++ tail

def dropExtension (path : List Char) : List Char :=
  dropEnding documentExtensions path

/-- A text without a slash at its start. -/
def dropLeadingSlash : List Char → List Char
  | '/' :: rest => rest
  | text => text

/-- A path without the text of a directory at its start. -/
def dropDirectory (cwd path : List Char) : List Char :=
  (Text.dropPrefix? cwd path).getD path

def ofPathChars (path cwd : List Char) : List Char :=
  dropLeadingSlash (dropDirectory cwd (dropExtension path))

def ofPath (path cwd : String) : String :=
  String.ofList (ofPathChars path.toList cwd.toList)

/-- The key of a document by the slug of its frontmatter, if anything is left of it. -/
def ofFrontmatter? (slug : String) : Option String :=
  match dropEnding [['/']] slug.toList with
  | [] => none
  | cs => some (String.ofList cs)

/-- The number of the next document without a path. -/
structure Names where
  next : Int := 1
  deriving DecidableEq, Repr

def Names.name (n : Int) : String :=
  "file-" ++ toString n

def Names.claim (names : Names) : String × Names :=
  (Names.name names.next, ⟨names.next + 1⟩)

end LinkIndex.Slug

import LinkIndex.Disk
import LinkIndex.Frontmatter
import LinkIndex.Json.Reader
import LinkIndex.Markdown
import LinkIndex.Corpus.Discovery
import LinkIndex.Tree.OfJson

/-!
Reading the files of documents. A markdown file is split into its frontmatter and
its body; a tree file holds a tree as JSON, and its frontmatter is in the first
YAML leaf below the root.
-/

namespace LinkIndex.Corpus

inductive ReadError
  | access (fault : AccessFault) (path : Path)
  | encoding (error : Utf8.DecodeError)
  | json (path : Path) (error : Json.ReadError)
  | tooManyDigits (count : Nat)
  | tree (error : TreeError)
  | notARoot (path : Path) (kind : String)
  | frontmatter (error : Yaml.Error)
  deriving DecidableEq, Repr

namespace ReadError

/-- What is said of the frontmatter of a document that is not YAML. -/
def yamlText : String := "<yaml error>"

def message : ReadError → String
  | .access fault path => fault.message path
  | .encoding error => error.message
  | .json path error => "Invalid JSON in " ++ path.text ++ ": " ++ error.message
  | .tooManyDigits count => tooManyDigitsMessage count
  | .tree error => error.message
  | .notARoot path kind => "Expected an mdast root in " ++ path.text ++ ", got " ++ quoted kind
  | .frontmatter .malformed => yamlText
  | .frontmatter error => error.message

/-- Whether a scan goes on after the failure. Values that are written well but denote nothing
end it. -/
def isTold : ReadError → Bool
  | .tooManyDigits _ => false
  | .frontmatter error => error = .malformed
  | _ => true

end ReadError

/-- The text of a file, with line feeds for its line endings. -/
def readText (disk : Disk) (cwd : Location) (path : Path) : Except ReadError (List Char) :=
  match disk.read cwd path with
  | .error fault => .error (.access fault path)
  | .ok bytes =>
    match Utf8.decode bytes with
    | .error e => .error (.encoding e)
    | .ok text => .ok (Text.unifyLineEndings text)

/-- The frontmatter and the body of a markdown file. -/
def readMarkdown (disk : Disk) (cwd : Location) (path : Path) :
    Except ReadError (Frontmatter × List Char) :=
  match readText disk cwd path with
  | .error e => .error e
  | .ok text => (Frontmatter.parse text).mapError .frontmatter

def treeOfText (path : Path) (text : List Char) : Except ReadError Tree :=
  match Json.parse text with
  | .error (.malformed e) => .error (.json path e)
  | .error (.tooManyDigits n) => .error (.tooManyDigits n)
  | .ok v =>
    match Tree.ofJson v with
    | .error e => .error (.tree e)
    | .ok (.element .root children) => .ok (.root children)
    | .ok t => .error (.notARoot path t.kind)

def readTree (disk : Disk) (cwd : Location) (path : Path) : Except ReadError Tree :=
  match readText disk cwd path with
  | .error e => .error e
  | .ok text => treeOfText path text

/-- The nodes directly below the top of a tree. -/
def topLevel : Tree → List Tree
  | .element _ children => children
  | .leaf _ => []

/-- The text of the first YAML leaf among nodes. -/
def yamlBlock? (nodes : List Tree) : Option String :=
  nodes.findSome? fun
    | .leaf (.literal "yaml" value) => some value
    | _ => none

def treeFrontmatter (t : Tree) : Except Yaml.Error Frontmatter :=
  match yamlBlock? (topLevel t) with
  | some block => Frontmatter.load block.toList
  | none => .ok []

def readTreeDocument (disk : Disk) (cwd : Location) (path : Path) :
    Except ReadError (Frontmatter × Tree) :=
  match readTree disk cwd path with
  | .error e => .error e
  | .ok t =>
    match treeFrontmatter t with
    | .ok f => .ok (f, t)
    | .error e => .error (.frontmatter e)

/-- The frontmatter and the tree of a document of either form. -/
def readDocument (disk : Disk) (cwd : Location) (path : Path) :
    Except ReadError (Frontmatter × Tree) :=
  if isTreeFile path.name then readTreeDocument disk cwd path
  else
    match readMarkdown disk cwd path with
    | .error e => .error e
    | .ok (f, body) =>
      match Markdown.parse (String.ofList body) with
      | .ok t => .ok (f, t)
      | .error e => .error (.tooManyDigits e.digits)

end LinkIndex.Corpus

import LinkIndex.Disk
import LinkIndex.Text.Order

/-!
Which files of a disk are documents. Markdown files and tree files are; a tree file
stands in for the markdown file of the same stem beside it. Directories are searched
to their bottom, but for those whose names say that they hold no documents.
-/

namespace LinkIndex.Corpus

def treeSuffix : List Char := ".mdast.json".toList

def markdownExtensions : List String := [".md", ".mdx"]

def isTreeFile (name : String) : Bool :=
  Text.endsWith treeSuffix name.toList

/-- What a name holds from its last dot on. A dot at either end of the name starts no extension. -/
def extension (name : String) : String :=
  let behind := (name.toList.reverse.takeWhile (· ≠ '.')).reverse
  let front := name.length - behind.length - 1
  if behind = [] ∨ front = 0 ∨ name.length ≤ behind.length then ""
  else String.ofList ('.' :: behind)

def isDocument (name : String) : Bool :=
  markdownExtensions.contains (extension name) || isTreeFile name

/-- A name without its document extension. -/
def stemName (name : String) : String :=
  match Text.dropSuffix? treeSuffix name.toList with
  | some stem => String.ofList stem
  | none => String.ofList (name.toList.take (name.length - (extension name).length))

def nameOf (l : Location) : String :=
  l.getLast?.getD ""

/-- The location without the document extension of its name. -/
def stem (l : Location) : Location :=
  l.dropLast ++ [stemName (nameOf l)]

/-- A tree file whose stem is no name, so that it stands beside no markdown file. -/
structure InvalidName where
  name : String
  deriving DecidableEq, Repr

def InvalidName.message (e : InvalidName) : String :=
  "Invalid name " ++ quoted e.name

/-- A name of nothing, or of the directory itself, is no name of a file. -/
def isFileName (name : String) : Bool :=
  name ≠ "" && name ≠ "."

/-- Directories that are not searched: hidden ones, and those of tools. -/
def isSkipped (directory : String) : Bool :=
  [".git", "node_modules", "__pycache__"].contains directory ||
    Text.startsWith ['.'] directory.toList

/-- The directories strictly between `top` and a location below it. -/
def between (top l : Location) : Location :=
  (l.drop top.length).dropLast

/-- The documents that one path gives: itself, or what is found below it. -/
def found (disk : Disk) (cwd : Location) (p : Path) : List Location :=
  match disk.find cwd p with
  | .error _ => []
  | .ok l =>
    if disk.isFile l then
      if isDocument p.name then [l] else []
    else (disk.filesBelow l).filter fun file =>
      isDocument (nameOf file) && !(between l file).any isSkipped

def sortOnce (ls : List Location) : List Location :=
  ls.eraseDups.mergeSort namesLE

def treeStems (ls : List Location) : Except InvalidName (List Location) :=
  let trees := ls.filter fun l => isTreeFile (nameOf l)
  match trees.find? fun l => !isFileName (stemName (nameOf l)) with
  | some l => .error ⟨stemName (nameOf l)⟩
  | none => .ok (trees.map stem)

/-- The documents that the paths give, in order and each once. A markdown file is left out where
there is a tree file of its stem. -/
def documents (disk : Disk) (cwd : Location) (paths : List Path) :
    Except InvalidName (List Location) :=
  let all := sortOnce (paths.flatMap (found disk cwd))
  match treeStems all with
  | .error e => .error e
  | .ok stems => .ok (all.filter fun l => isTreeFile (nameOf l) || !stems.contains (stem l))

end LinkIndex.Corpus

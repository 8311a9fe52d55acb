import LinkIndex.Text.Blank

/-!
Paths as they are written, and the locations that they stand for. A path keeps its
double dots; a location is reached from the top directory by names alone.
-/

namespace LinkIndex

/-- The names on the way from the top directory down to a file or a directory. -/
abbrev Location := List String

def Location.text (l : Location) : String :=
  "/" ++ String.intercalate "/" l

/-- A path without single dots and empty names. -/
structure Path where
  /-- The slashes in front: none, one or two. -/
  anchor : String
  names : List String
  deriving DecidableEq, Repr

namespace Path

/-- The pieces of a text between slashes. -/
def pieces (text : String) : List String :=
  (Text.cutAt (· = '/') text.toList).map String.ofList

/-- One slash in front of a path makes it absolute, and so do three and more; two slashes are kept
as they are. -/
def anchorOf (text : String) : String :=
  match (text.toList.takeWhile (· = '/')).length with
  | 0 => ""
  | 2 => "//"
  | _ => "/"

def ofString (text : String) : Path where
  anchor := anchorOf text
  names := (pieces text).filter fun name => name ≠ "" && name ≠ "."

/-- The text of a path. The empty one stands for the directory at hand. -/
def text (p : Path) : String :=
  if p.anchor = "" ∧ p.names = [] then "." else p.anchor ++ String.intercalate "/" p.names

def ofLocation (l : Location) : Path :=
  ⟨"/", l⟩

def isAbsolute (p : Path) : Bool :=
  p.anchor ≠ ""

def name (p : Path) : String :=
  p.names.getLast?.getD ""

/-- The directory that a path lies in. -/
def parent (p : Path) : Path :=
  { p with names := p.names.dropLast }

/-- The location that `name` leads to from `l`. -/
def step (l : Location) (name : String) : Location :=
  if name = ".." then l.dropLast else l ++ [name]

/-- The directory from which a path leads on. -/
def start (cwd : Location) (p : Path) : Location :=
  if p.isAbsolute then [] else cwd

/-- The location that a path stands for, whether something is there or not. -/
def resolve (cwd : Location) (p : Path) : Location :=
  p.names.foldl step (p.start cwd)

end Path

end LinkIndex

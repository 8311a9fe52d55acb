import LinkIndex.Assoc
import LinkIndex.Path
import LinkIndex.Text.Quoted

/-!
Files and directories. A disk is given by what lies at its locations; a directory
is also there where something lies below it.
-/

namespace LinkIndex

inductive Content
  | file (bytes : List UInt8)
  | directory
  deriving DecidableEq, Repr

structure Disk where
  entries : Assoc Location Content
  deriving Repr

/-- Why nothing is found on the way that a path describes. -/
inductive AccessFault
  | missing
  | notADirectory
  | isADirectory
  deriving DecidableEq, Repr

/-- What is said when the file of a path is not read. -/
def AccessFault.message (fault : AccessFault) (path : Path) : String :=
  let cause := match fault with
    | .missing => "[Errno 2] No such file or directory: "
    | .notADirectory => "[Errno 20] Not a directory: "
    | .isADirectory => "[Errno 21] Is a directory: "
  cause ++ quoted path.text

/-- Whether a location lies strictly below another one. -/
def Location.isBelow (l : Location) (top : Location) : Bool :=
  l.length > top.length && l.take top.length = top

namespace Disk

def contentAt? (d : Disk) (l : Location) : Option Content :=
  match d.entries.get? l with
  | some content => some content
  | none => if l = [] || d.entries.any (·.1.isBelow l) then some .directory else none

def isFile (d : Disk) (l : Location) : Bool :=
  match d.contentAt? l with
  | some (.file _) => true
  | _ => false

def isDirectory (d : Disk) (l : Location) : Bool :=
  d.contentAt? l = some .directory

/-- Goes on from `l` by one piece of a path. An empty piece and a single dot lead nowhere else,
but only from a directory. -/
def advance (d : Disk) (l : Location) (piece : String) : Except AccessFault Location :=
  if !d.isDirectory l then .error .notADirectory
  else if piece = "" ∨ piece = "." then .ok l
  else
    let next := Path.step l piece
    if (d.contentAt? next).isSome then .ok next else .error .missing

def follow (d : Disk) : Location → List String → Except AccessFault Location
  | l, [] => .ok l
  | l, piece :: rest =>
    match d.advance l piece with
    | .ok next => d.follow next rest
    | .error fault => .error fault

/-- The location at which the way that a path describes ends. -/
def find (d : Disk) (cwd : Location) (p : Path) : Except AccessFault Location :=
  d.follow (p.start cwd) p.names

/-- Whether there is something at a path as it is written. -/
def exists? (d : Disk) (cwd : Location) (text : String) : Bool :=
  text ≠ "" &&
    match d.follow ((Path.ofString text).start cwd) (Path.pieces text) with
    | .ok _ => true
    | .error _ => false

def read (d : Disk) (cwd : Location) (p : Path) : Except AccessFault (List UInt8) :=
  match d.find cwd p with
  | .error fault => .error fault
  | .ok l =>
    match d.contentAt? l with
    | some (.file bytes) => .ok bytes
    | some .directory => .error .isADirectory
    | none => .error .missing

def hasFile (d : Disk) (cwd : Location) (p : Path) : Bool :=
  match d.find cwd p with
  | .ok l => d.isFile l
  | .error _ => false

def filesBelow (d : Disk) (top : Location) : List Location :=
  d.entries.filterMap fun
    | (l, .file _) => if l.isBelow top then some l else none
    | _ => none

end Disk

end LinkIndex

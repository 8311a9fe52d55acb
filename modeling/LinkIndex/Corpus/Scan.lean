import LinkIndex.Corpus.Reading
import LinkIndex.Document
import LinkIndex.Report

/-!
Scanning the documents of a disk into a store. A file that cannot be read becomes
a warning, and the scan goes on with the next one.
-/

namespace LinkIndex.Corpus

/-- What a scan depends on besides the store. -/
structure Setup where
  disk : Disk
  /-- The directory at hand. -/
  cwd : Location
  /-- The directory that the keys of documents are taken relative to. -/
  root : Location
  options : Options

structure Progress where
  store : Store
  processed : Nat := 0
  warnings : List String := []
  notices : List Notice := []

inductive ScanError
  | name (error : InvalidName)
  | read (error : ReadError)
  deriving DecidableEq, Repr

/-- The document of a file, known by the path of its location. -/
def documentAt (root : Location) (file : Location) (frontmatter : Frontmatter) : Document where
  path := some file.text
  history := [file.text]
  cwd := root.text
  frontmatter

/-- The warning for a file that could not be read. -/
def warning (file : Location) (e : ReadError) : String :=
  "Could not load " ++ file.text ++ ": " ++ e.message

def scanFile (setup : Setup) (p : Progress) (file : Location) :
    Except (ReadError × Progress) Progress :=
  match readDocument setup.disk setup.cwd (.ofLocation file) with
  | .error e =>
    if e.isTold then
      .ok { p with
        warnings := p.warnings ++ [warning file e]
        notices := p.notices ++ [.notLoaded file.text] }
    else .error (e, p)
  | .ok (frontmatter, tree) =>
    let outcome :=
      (documentAt setup.root file frontmatter).process setup.options p.store {} tree
    .ok { p with
      store := outcome.store
      processed := p.processed + (if outcome.links.isSome then 1 else 0)
      notices := p.notices ++ outcome.notices }

/-- Takes files into the store, one after the other. -/
def scanFiles (setup : Setup) : Progress → List Location → Except (ReadError × Progress) Progress
  | p, [] => .ok p
  | p, file :: rest =>
    match scanFile setup p file with
    | .ok next => scanFiles setup next rest
    | .error e => .error e

structure Scan where
  report : Except ScanError Report
  store : Store
  notices : List Notice

def reportOf (files : List Location) (p : Progress) : Report where
  documents := files.length
  processed := p.processed
  skipped := (files.length : Int) - p.processed
  data := p.store.data
  warnings := p.warnings

/-- Scans the documents that the paths give. -/
def scan (setup : Setup) (store : Store) (paths : List Path) : Scan :=
  let store := setup.options.startStore store
  match documents setup.disk setup.cwd paths with
  | .error e => ⟨.error (.name e), store, []⟩
  | .ok files =>
    match scanFiles setup { store } files with
    | .ok p => ⟨.ok (reportOf files p), p.store, p.notices⟩
    | .error (e, p) => ⟨.error (.read e), p.store, p.notices⟩

end LinkIndex.Corpus

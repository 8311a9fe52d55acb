import LinkIndex.Frontmatter
import LinkIndex.Store

/-!
Taking one document into the store. A draft is left out where drafts are ignored;
a document without a slug is left out where slugs are the keys; every other
document is recorded under its key, whatever its tree holds.
-/

namespace LinkIndex

/-- What is known of a document besides its tree. -/
structure Document where
  path : Option String := none
  /-- The paths it has had, the oldest one first. -/
  history : List String := []
  /-- The directory that keys are taken relative to. -/
  cwd : String
  frontmatter : Frontmatter := []
  deriving Repr

/-- What is told about a document while it is processed. -/
inductive Notice
  | draftSkipped (path : Option String)
  | slugMissing (path : Option String)
  | overwritten (overwrite : Overwrite)
  | extracted (slug : String) (headings internal external : Nat)
  | notLoaded (path : String)
  deriving DecidableEq, Repr

inductive Severity
  | debug
  | warning
  deriving DecidableEq, Repr

namespace Notice

def severity : Notice → Severity
  | .slugMissing _ => .warning
  | .overwritten _ => .warning
  | _ => .debug

def message : Notice → String
  | .draftSkipped path => "Skipping draft: " ++ sourceName path
  | .slugMissing path => "No slug found for file: " ++ sourceName path
  | .overwritten o => o.message
  | .extracted slug headings internal external =>
    "Extracted " ++ slug ++ ": " ++ toString headings ++ " headings, " ++ toString internal ++
      " internal, " ++ toString external ++ " external"
  | .notLoaded path => "Could not load " ++ path

def isWarning (n : Notice) : Bool :=
  n.severity = .warning

end Notice

structure Outcome where
  /-- Its links, unless it was left out. -/
  links : Option Links
  store : Store
  names : Slug.Names
  notices : List Notice
  deriving Repr

namespace Document

/-- The oldest path that is not empty, if there is one. -/
def resolvedPath? (d : Document) : Option String :=
  match d.history with
  | first :: _ => if first = "" then current else some first
  | [] => current
where
  /-- The current path, unless it is empty. -/
  current : Option String := d.path.filter (· ≠ "")

/-- The key by path; a document without a path claims a name. -/
def pathSlug (names : Slug.Names) (d : Document) : String × Slug.Names :=
  match d.resolvedPath? with
  | some path => (Slug.ofPath path d.cwd, names)
  | none =>
    let (name, names) := names.claim
    (Slug.ofPath name d.cwd, names)

def recordAs (options : Options) (store : Store) (names : Slug.Names) (d : Document) (t : Tree)
    (slug : String) : Outcome :=
  let links := extract options t
  let source := d.resolvedPath?
  { names
    links := some links
    store := store.record slug links source
    notices := ((store.overwriteOf? slug source).map Notice.overwritten).toList ++
      [.extracted slug links.headings.length links.internal.length links.external.length] }

def process (options : Options) (store : Store) (names : Slug.Names) (d : Document) (t : Tree) :
    Outcome :=
  if options.ignoreDrafts ∧ d.frontmatter.isDraft then
    ⟨none, store, names, [.draftSkipped d.resolvedPath?]⟩
  else if options.keyBySlug then
    match d.frontmatter.documentSlug? with
    | some slug => d.recordAs options store names t slug
    | none => ⟨none, store, names, [.slugMissing d.resolvedPath?]⟩
  else
    let (slug, names) := d.pathSlug names
    d.recordAs options store names t slug

end Document

def Options.startStore (options : Options) (store : Store) : Store :=
  if options.resetOnRun then store.reset else store

end LinkIndex

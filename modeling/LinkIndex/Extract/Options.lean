/-!
The switches of an extraction.
-/

namespace LinkIndex

/-- How documents are read. All switches are off unless they are set. -/
structure Options where
  /-- Documents that are marked as drafts are left out. -/
  ignoreDrafts : Bool := false
  /-- Documents are keyed by the slug of their frontmatter. -/
  keyBySlug : Bool := false
  /-- Headings without an identifier of their own are given an anchor. -/
  headingSlugs : Bool := false
  /-- What was recorded before is forgotten when a run begins. -/
  resetOnRun : Bool := false
  deriving DecidableEq, Repr

end LinkIndex

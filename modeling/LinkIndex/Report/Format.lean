import LinkIndex.Json.Printer
import LinkIndex.Report
import LinkIndex.Report.Markup
import LinkIndex.Report.Table

/-!
The forms in which a report is written: its data as JSON, the keys of its documents
alone, or a summary with a table of the documents, and on request with every heading
and link.
-/

namespace LinkIndex

/-- Which form a report is written in. JSON comes before the keys alone. -/
structure Form where
  json : Bool := false
  quiet : Bool := false
  verbose : Bool := false
  deriving DecidableEq, Repr

def LinkData.listsJson (m : Assoc String (List String)) : Json :=
  .obj (m.map fun p => (p.1, .arr (p.2.map .str)))

def LinkData.toJson (d : LinkData) : Json :=
  .obj [("headings", listsJson d.headings), ("internalLinks", listsJson d.internal),
    ("externalLinks", listsJson d.external)]

/-- The keys of the documents, in order. -/
def LinkData.sortedKeys (d : LinkData) : List String :=
  d.headings.keys.mergeSort (· ≤ ·)

/-- What is recorded under a key. -/
def LinkData.listAt (m : Assoc String (List String)) (key : String) : List String :=
  (m.get? key).getD []

namespace Report

/-- The lines that a text takes on the screen. -/
def shown (text : String) : List (List Char) :=
  wrap .fold screenWidth (visible text.toList)

/-- The first line. -/
def summary (r : Report) : String :=
  (if r.warnings = [] then "OK" else "WARN") ++ "  scanned " ++ toString r.documents ++
    " documents: " ++ toString r.processed ++ " recorded, " ++ toString r.skipped ++ " skipped"

/-- The titles of the columns. -/
def titles : Row where
  text := "Document".toList
  numbers := ["Headings".toList, "Internal".toList, "External".toList]

def documentRow (d : LinkData) (key : String) : Except MarkupError Row :=
  match showMarkup key.toList with
  | .error e => .error e
  | .ok text =>
    let count (m : Assoc String (List String)) := Text.decimal (LinkData.listAt m key).length
    .ok ⟨text, [count d.headings, count d.internal, count d.external]⟩

def documentRows (d : LinkData) : List String → Except MarkupError (List Row)
  | [] => .ok []
  | key :: rest =>
    match documentRow d key, documentRows d rest with
    | .ok row, .ok rows => .ok (row :: rows)
    | .error e, _ => .error e
    | _, .error e => .error e

/-- The table of the documents; nothing where there is none. -/
def documentTable (d : LinkData) : Except MarkupError (List (List Char)) :=
  match d.sortedKeys with
  | [] => .ok []
  | keys =>
    match documentRows d keys with
    | .ok rows => .ok (tableLines (titles :: rows))
    | .error e => .error e

/-- The headings and the links of a document, below a blank line and its key. -/
def detailLines (d : LinkData) (key : String) : List (List Char) :=
  let entries (title : String) (m : Assoc String (List String)) :=
    (LinkData.listAt m key).flatMap fun v => shown ("  " ++ title ++ ": " ++ v)
  [] :: shown key ++ entries "headings" d.headings ++ entries "internal" d.internal ++
    entries "external" d.external

/-- Lines as one text, without the line feeds at its end. -/
def screenText (lines : List (List Char)) : String :=
  String.ofList (Text.trimEndBy (· = '\n') (Text.unlines lines))

def screen (r : Report) (verbose : Bool) : Except MarkupError String :=
  match documentTable r.data with
  | .error e => .error e
  | .ok table =>
    let details := if verbose then r.data.sortedKeys.flatMap (detailLines r.data) else []
    .ok (screenText (shown r.summary ++ table ++ details))

/-- A report in the form that is asked for. -/
def format (r : Report) (form : Form) : Except MarkupError String :=
  if form.json then .ok r.data.toJson.indented
  else if form.quiet then .ok (String.intercalate "\n" r.data.sortedKeys)
  else r.screen form.verbose

end Report

end LinkIndex

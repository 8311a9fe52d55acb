import LinkIndex.Html.Target
import LinkIndex.Slug.Heading
import LinkIndex.Tree.Definitions
import LinkIndex.Url
import LinkIndex.Extract.Options

/-!
The headings and links of one document. Its nodes are visited in document order,
each contributes what stands in it, and every link goes to one of two lists by
where it points. Nothing is dropped, repeated or rewritten on the way.
-/

namespace LinkIndex

/-- The headings of a document and its links, each in document order. -/
structure Links where
  headings : List String := []
  internal : List String := []
  external : List String := []
  deriving DecidableEq, Repr

namespace Links

def addHeading (links : Links) (id : String) : Links :=
  { links with headings := links.headings ++ [id] }

/-- Puts a link on the list of its kind. -/
def addLink (links : Links) (url : String) : Links :=
  match classify url with
  | .external => { links with external := links.external ++ [url] }
  | .internal => { links with internal := links.internal ++ [url] }

def addHeadings (links : Links) (ids : List String) : Links :=
  ids.foldl addHeading links

def addLinks (links : Links) (urls : List String) : Links :=
  urls.foldl addLink links

/-- Takes up one target of raw markup. -/
def addTarget (links : Links) : Html.Target → Links
  | .id value => links.addHeading value
  | .href value => links.addLink value

end Links

def textAttributes (attributes : List Attribute) (name : String) : List String :=
  attributes.filterMap fun
    | .named n (.text value) => if n = name then some value else none
    | _ => none

/-- The JSX elements whose `href` is a link. -/
def linkElements : List String :=
  ["a", "LinkCard", "LinkButton"]

structure Visit where
  links : Links := {}
  /-- The anchors given out so far; none where headings are given no anchors. -/
  slugger : Option Slugger
  deriving DecidableEq, Repr

namespace Visit

/-- A heading contributes its own identifier, or else an anchor made of its text. -/
def heading (v : Visit) (id : Option String) (text : String) : Visit :=
  match id with
  | some id =>
    if id = "" then anchor v else { v with links := v.links.addHeading id }
  | none => anchor v
where
  /-- Gives an anchor to a heading that has a text. -/
  anchor (v : Visit) : Visit :=
    match v.slugger with
    | none => v
    | some slugger =>
      if text = "" then v
      else
        let (slug, slugger) := slugger.slug text
        ⟨v.links.addHeading slug, some slugger⟩

/-- A reference contributes the URL of its definition, if that is not empty. -/
def reference (v : Visit) (definitions : Definitions) (identifier : String) : Visit :=
  match definitions.get? identifier with
  | some url => if url = "" then v else { v with links := v.links.addLink url }
  | none => v

/-- A JSX element contributes its identifiers, and its targets if it is a link and stands for
itself. -/
def jsx (v : Visit) (place : JsxPlace) (name : Option String) (attributes : List Attribute) :
    Visit :=
  let links := v.links.addHeadings (textAttributes attributes "id")
  let isLink := place = .flow ∧ name.any (linkElements.contains ·)
  { v with links := if isLink then links.addLinks (textAttributes attributes "href") else links }

/-- Takes up what one node contributes, its children aside. -/
def node (definitions : Definitions) (v : Visit) (t : Tree) : Visit :=
  match t with
  | .element (.heading _ id) _ => v.heading id t.flatten
  | .element (.link url _) _ => { v with links := v.links.addLink url }
  | .element (.reference identifier _ _) _ => v.reference definitions identifier
  | .element (.jsx place name attributes) _ => v.jsx place name attributes
  | .leaf (.html value) =>
    { v with links := (Html.targets value).foldl Links.addTarget v.links }
  | _ => v

end Visit

/-- A visit that has seen nothing yet. -/
def Options.newVisit (options : Options) : Visit :=
  { slugger := if options.headingSlugs then some {} else none }

/-- The headings and links of a document tree. -/
def extract (options : Options) (t : Tree) : Links :=
  (t.walk.foldl (Visit.node (Definitions.ofTree t)) options.newVisit).links

end LinkIndex

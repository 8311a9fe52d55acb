import LinkIndex.Html.Fragment

/-!
What a reader can jump to from or within raw markup: the `id` of every element
and the `href` of every `a`, element by element through the tree of the markup.
-/

namespace LinkIndex.Html

inductive Target
  | id (value : String)
  | href (value : String)
  deriving DecidableEq, Repr

/-- The identifier of an element comes before its target. -/
def Element.targets (element : Element) : List Target :=
  ((element.attributes.get? "id".toList).map fun v => .id (String.ofList v)).toList ++
    (if element.name = "a".toList then
      ((element.attributes.get? "href".toList).map fun v => .href (String.ofList v)).toList
    else [])

/-- The targets of a fragment, in document order; none where the fragment is refused. -/
def targets (markup : String) : List Target :=
  match fragment? markup.toList with
  | some nodes => (Node.elements nodes).flatMap Element.targets
  | none => []

end LinkIndex.Html

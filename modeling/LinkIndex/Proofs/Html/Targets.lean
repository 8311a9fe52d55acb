import LinkIndex.Html.Target
import LinkIndex.Proofs.Assoc
import LinkIndex.Proofs.Html.Scan

/-!
The targets of a fragment are those of its start tags, one after the other. The tree that is
built on the way there has no say in this: whatever an end tag closes, and whatever stays open,
the elements come out in the order in which they were opened.

The invariant is about the elements of a tree that is still being built, those outside of all
open elements first and then those of each open element, the outermost one first. A start tag
adds one element at the end; and since what is closed goes to the end of what it is inside of,
closing keeps them all where they are.
-/

namespace LinkIndex.Html

/-! ### What start tags ask for -/

/-- The start tag of a piece, if it is one. -/
def Event.tag? : Event → Option StartTag
  | .opening tag => some tag
  | .selfClosing tag => some tag
  | _ => none

/-- Whether a piece can be taken up: a decimal number has to be short enough to be read. -/
def Event.isCounted : Event → Bool
  | .number digits => isCountedBy digits
  | _ => true

namespace StartTag

/-- The value of the last attribute of a name; the empty one where it stands without a value. -/
def lastValue? (tag : StartTag) (name : List Char) : Option (List Char) :=
  (tag.attributes.filter fun p => p.1 = name).getLast?.map fun p => p.2.getD []

/-- The targets of a start tag by itself, the identifier first. -/
def targets (tag : StartTag) : List Target :=
  ((tag.lastValue? "id".toList).map fun v => .id (String.ofList v)).toList ++
    (if tag.name = "a".toList then
      ((tag.lastValue? "href".toList).map fun v => .href (String.ofList v)).toList
    else [])

/-- The attributes of an element hold the last value of each name. -/
theorem get?_attributes_element (tag : StartTag) (name : List Char) :
    tag.element.attributes.get? name = tag.lastValue? name := by
  obtain ⟨_, attributes⟩ := tag
  simp only [element, lastValue?]
  induction attributes using List.reverseRecOn with
  | nil => rfl
  | append_singleton attributes p ih =>
      rw [List.map_append, List.map_singleton, Assoc.ofList_concat, Assoc.get?_put, ih,
        List.filter_append]
      by_cases hp : p.1 = name
      · simp [hp]
      · simp [hp]

theorem targets_element (tag : StartTag) : tag.element.targets = tag.targets := by
  rw [Element.targets, get?_attributes_element, get?_attributes_element]
  rfl

end StartTag

/-! ### The elements of a tree -/

namespace Node

@[simp] theorem elements_nil : elements [] = [] := rfl

theorem descendantsAll_append (front back : List Node) :
    descendantsAll (front ++ back) = descendantsAll front ++ descendantsAll back := by
  induction front with
  | nil => rfl
  | cons node rest ih =>
      rw [List.cons_append, descendantsAll, ih, descendantsAll, List.append_assoc]

@[simp] theorem elements_append (front back : List Node) :
    elements (front ++ back) = elements front ++ elements back := by
  rw [elements, descendantsAll_append, List.filterMap_append]
  rfl

@[simp] theorem elements_element (e : Element) (children : List Node) :
    elements [.element e children] = e :: elements children := by
  simp [elements, descendantsAll, descendants, element?]

end Node

/-! ### The elements of a tree that is being built -/

namespace Builder

variable {b b' : Builder}

/-- The elements so far: those that are not inside of an open one, and then each open one with
those inside of it that are closed, from the outermost one inwards. -/
def elements (b : Builder) : List Element :=
  Node.elements b.outside.reverse ++
    b.opened.reverse.flatMap fun o => o.element :: Node.elements o.children.reverse

theorem elements_add (b : Builder) (node : Node) :
    (b.add node).elements = b.elements ++ Node.elements [node] := by
  unfold add
  split
  · rename_i hopened
    simp [elements, hopened]
  · rename_i o rest hopened
    simp [elements, hopened]

theorem elements_openElement (b : Builder) (e : Element) :
    (b.openElement e).elements = b.elements ++ [e] := by
  simp [elements, openElement]

theorem elements_close (b : Builder) : b.close.elements = b.elements := by
  unfold close
  split
  · rfl
  · rename_i o rest hopened
    rw [elements_add, Node.elements_element]
    simp [elements, hopened]

theorem elements_closeMany (n : Nat) (b : Builder) : (closeMany n b).elements = b.elements := by
  induction n generalizing b with
  | zero => rfl
  | succ n ih => rw [closeMany, ih, elements_close]

theorem elements_closeNamed (b : Builder) (name : List Char) :
    (b.closeNamed name).elements = b.elements := by
  unfold closeNamed
  split
  · exact elements_closeMany _ b
  · rfl

theorem elements_endTag (b : Builder) (name : List Char) :
    (b.endTag name).elements = b.elements := by
  unfold endTag
  split
  · rfl
  · exact elements_closeNamed b name

/-- A start tag adds its element at the end; no other piece changes the elements. -/
theorem elements_step {event : Event} (h : b.step event = some b') :
    b'.elements = b.elements ++ (event.tag?.map StartTag.element).toList := by
  cases event with
  | opening tag =>
      obtain rfl := Option.some.inj h
      have hopen := elements_openElement b tag.element
      split
      · exact (elements_closeNamed _ tag.name).trans hopen
      · exact hopen
  | selfClosing tag =>
      obtain rfl := Option.some.inj h
      exact (elements_endTag _ tag.name).trans (elements_openElement b tag.element)
  | closing name =>
      obtain rfl := Option.some.inj h
      exact (elements_endTag b name).trans (List.append_nil _).symm
  | number digits =>
      obtain ⟨-, rfl⟩ : isCountedBy digits = true ∧ b.add .text = b' := by simpa [step] using h
      exact elements_add b .text
  | text =>
      obtain rfl := Option.some.inj h
      exact elements_add b .text

theorem isSome_step (b : Builder) (event : Event) :
    (b.step event).isSome = event.isCounted := by
  cases event with
  | number digits => by_cases h : isCountedBy digits <;> simp [step, Event.isCounted, h]
  | _ => rfl

/-- By induction on the pieces, with what one of them adds. -/
theorem elements_run {events : List Event} (h : b.run events = some b') :
    b'.elements = b.elements ++ (events.filterMap Event.tag?).map StartTag.element := by
  induction events generalizing b with
  | nil =>
      obtain rfl := Option.some.inj h
      exact (List.append_nil _).symm
  | cons event rest ih =>
      obtain ⟨next, hstep, hrun⟩ := Option.bind_eq_some_iff.1 h
      rw [ih hrun, elements_step hstep, List.append_assoc]
      cases htag : event.tag? <;> simp [htag]

theorem isSome_run (b : Builder) (events : List Event) :
    (b.run events).isSome = events.all Event.isCounted := by
  induction events generalizing b with
  | nil => rfl
  | cons event rest ih =>
      rw [run, List.all_cons, ← isSome_step b event]
      cases b.step event with
      | none => rfl
      | some next => simpa using ih next

/-! ### The end of the fragment -/

@[simp] theorem length_opened_add (b : Builder) (node : Node) :
    (b.add node).opened.length = b.opened.length := by
  unfold add
  split <;> simp [*]

theorem length_opened_close (b : Builder) : b.close.opened.length = b.opened.length - 1 := by
  unfold close
  split <;> simp [*]

theorem length_opened_closeMany (n : Nat) (b : Builder) :
    (closeMany n b).opened.length = b.opened.length - n := by
  induction n generalizing b with
  | zero => rfl
  | succ n ih => rw [closeMany, ih, length_opened_close]; omega

/-- At the end all elements are closed, so that none is left out of the tree. -/
theorem elements_nodes (b : Builder) : Node.elements b.nodes = b.elements := by
  have hopened : (closeMany b.opened.length b).opened = [] := by
    rw [← List.length_eq_zero_iff, length_opened_closeMany, Nat.sub_self]
  rw [← elements_closeMany b.opened.length b, elements, hopened]
  exact (List.append_nil _).symm

end Builder

/-! ### Pieces and fragments -/

/-- A tree is built just if every number in the text can be read. -/
theorem isSome_build? (events : List Event) :
    (build? events).isSome = events.all Event.isCounted := by
  rw [build?, Option.isSome_map, Builder.isSome_run]

/-- The elements of a tree are those of the start tags, in their order. -/
theorem elements_of_build? {events : List Event} {nodes : List Node}
    (h : build? events = some nodes) :
    Node.elements nodes = (events.filterMap Event.tag?).map StartTag.element := by
  obtain ⟨b, hrun, rfl⟩ := Option.map_eq_some_iff.1 h
  rw [Builder.elements_nodes, Builder.elements_run hrun]
  rfl

/-- The targets of a fragment are those of its start tags, as far as it can be read at all: it is
split up into pieces, and every decimal number in its text is short enough to be read. Of any
other fragment nothing is left, also of what stands in front of the offending place. -/
theorem targets_eq_flatMap_tags (markup : String) :
    targets markup =
      match events? markup.toList with
      | some events =>
        if events.all Event.isCounted then
          (events.filterMap Event.tag?).flatMap StartTag.targets
        else []
      | none => [] := by
  rw [targets, fragment?]
  cases events? markup.toList with
  | none => rfl
  | some events =>
      have hbuilt := isSome_build? events
      simp only [Option.bind_some]
      cases hnodes : build? events with
      | none =>
          rw [hnodes, Option.isSome_none] at hbuilt
          simp [← hbuilt]
      | some nodes =>
          rw [hnodes, Option.isSome_some] at hbuilt
          simp only [← hbuilt, if_true, elements_of_build? hnodes, List.flatMap_map,
            StartTag.targets_element]

example :
    targets "<p id=1><b><a href='x' ID=2 href='y'></p></b><br id></i><A HREF=z>" =
      [.id "1", .id "2", .href "y", .id "", .href "z"] := by
  decide +kernel

def longNumber : List Char :=
  List.replicate (Json.maxDigits + 1) '1'

def anchorTag : StartTag :=
  ⟨"a".toList, [("href".toList, some "/x".toList)]⟩

/-- A reference to a character by that number, and the anchor. -/
def longNumberMarkup : String :=
  String.ofList ('&' :: '#' :: (longNumber ++ ';' :: "<a href=\"/x\">".toList))

theorem events?_longNumberMarkup :
    events? longNumberMarkup.toList = some [.number longNumber, .opening anchorTag] := by
  have hne : longNumber ≠ [] := List.cons_ne_nil _ _
  have hdigits : ∀ c ∈ longNumber, c.isDigit := by
    intro c hc
    obtain rfl := List.eq_of_mem_replicate hc
    rfl
  have hanchor : events? "<a href=\"/x\">".toList = some [.opening anchorTag] := by
    decide +kernel
  rw [longNumberMarkup, String.toList_ofList, events?_numberRef hne hdigits, hanchor]
  rfl

/-- It is split up into the number and the anchor, whose target is lost. -/
theorem targets_longNumberMarkup :
    events? longNumberMarkup.toList = some [.number longNumber, .opening anchorTag] ∧
      anchorTag.targets = [.href "/x"] ∧ targets longNumberMarkup = [] := by
  have hcounted : isCountedBy longNumber = false := by
    simp [isCountedBy, longNumber]
  have hbuilt := isSome_build? [.number longNumber, .opening anchorTag]
  rw [List.all_cons, Event.isCounted, hcounted, Bool.false_and, Option.isSome_eq_false_iff,
    Option.isNone_iff_eq_none] at hbuilt
  refine ⟨events?_longNumberMarkup, by decide +kernel, ?_⟩
  rw [targets, fragment?, events?_longNumberMarkup, Option.bind_some, hbuilt]

end LinkIndex.Html

import LinkIndex.Proofs.Extract.References
import Mathlib.Logic.Relation

/-!
Containers do not show. A container has no headings, links, definitions or text of its own,
so a document reads the same when the children of every container, at any depth, stand in its
place. Documents that differ in how their nodes are put into containers have the same bare
form, so they read the same as well.
-/

namespace LinkIndex

/-- Puts the children of all containers in their places. -/
def Edit.unwrapping : Edit where
  element
    | .container _ => none
    | e => some e

namespace Edit

/-- A container has neither URLs nor anchors of its own, and any other element stays what it is. -/
theorem unwrapping_keepsReading (url? : String → Option String) : unwrapping.KeepsReading url? :=
  keepsReading_of_element nofun (fun e _ => by cases e <;> rfl) fun e _ => by cases e <;> rfl

theorem container_not_mem_unwrapping (ts : List Tree) (kind : String) (children : List Tree) :
    .element (.container kind) children ∉ (unwrapping.trees ts).flatMap Tree.preorder := by
  rw [flatMap_preorder_trees, List.mem_flatMap]
  rintro ⟨n, -, hmem⟩
  cases n with
  | leaf l => simp [node, unwrapping] at hmem
  | element e children' => cases e <;> simp [node, unwrapping] at hmem

end Edit

/-! ### Documents that read the same -/

/-- Two documents have the same headings and links, definitions and text. -/
structure ReadsSame (options : Options) (t t' : Tree) : Prop where
  extract : LinkIndex.extract options t' = LinkIndex.extract options t
  definitions : Definitions.ofTree t' = Definitions.ofTree t
  text : t'.flatten = t.flatten

theorem ReadsSame.symm {options : Options} {t t' : Tree} (h : ReadsSame options t t') :
    ReadsSame options t' t :=
  ⟨h.extract.symm, h.definitions.symm, h.text.symm⟩

theorem ReadsSame.trans {options : Options} {t t' t'' : Tree} (h : ReadsSame options t t')
    (h' : ReadsSame options t' t'') : ReadsSame options t t'' :=
  ⟨h'.extract.trans h.extract, h'.definitions.trans h.definitions, h'.text.trans h.text⟩

/-- The bare form of a document reads as the document does. -/
theorem readsSame_unwrapping (options : Options) (children : List Tree) :
    ReadsSame options (.root children) (.root (Edit.unwrapping.trees children)) := by
  have hroot : Edit.unwrapping.tree (.root children) = [.root (Edit.unwrapping.trees children)] :=
    Edit.tree_element rfl children
  have hdefinition : Edit.unwrapping.Keeps Tree.ownDefinition :=
    Edit.keeps_ownDefinition fun _ => rfl
  have hreading := Edit.unwrapping_keepsReading (Tree.root children).definedUrl?
  exact ⟨hreading.extract_eq hdefinition hroot options, hdefinition.definitions_eq hroot,
    hreading.text.flatten_eq hroot⟩

theorem readsSame_of_unwrapping {children children' : List Tree} (options : Options)
    (h : Edit.unwrapping.trees children' = Edit.unwrapping.trees children) :
    ReadsSame options (.root children) (.root children') := by
  have hbare := readsSame_unwrapping options children
  rw [← h] at hbare
  exact hbare.trans (readsSame_unwrapping options children').symm

/-! ### Siblings in a container -/

/-- A run of siblings, somewhere in a document, is put into a container. -/
inductive Wraps : List Tree → List Tree → Prop
  | here (before run after : List Tree) (kind : String) :
    Wraps (before ++ run ++ after) (before ++ .element (.container kind) run :: after)
  | inside (before : List Tree) (e : Element) (after : List Tree) {children children' : List Tree}
    (h : Wraps children children') :
    Wraps (before ++ .element e children :: after) (before ++ .element e children' :: after)

theorem Wraps.unwrapping {ts ts' : List Tree} (h : Wraps ts ts') :
    Edit.unwrapping.trees ts' = Edit.unwrapping.trees ts := by
  induction h with
  | here before run after kind =>
      have hcontainer : Edit.unwrapping.tree (.element (.container kind) run) =
          Edit.unwrapping.trees run := by
        rw [Edit.tree]
        rfl
      rw [Edit.trees_append, Edit.trees, hcontainer, Edit.trees_append, Edit.trees_append,
        List.append_assoc]
  | inside before e after _ ih =>
      have helement := Edit.tree_element_congr ih e
      rw [Edit.trees_append, Edit.trees_append, Edit.trees, Edit.trees, helement]

/-- Containers do not show. With the children of every container below the root in its place,
at every depth and whatever the kinds are, no container is left and the document has the same
headings and links, the same definitions and the same text. So it has them too when runs of
siblings, anywhere in it and one after the other, are put into containers. -/
theorem extract_unwrapped (options : Options) (children : List Tree) :
    let bare := Edit.unwrapping.trees children
    (∀ kind inner, .element (.container kind) inner ∉ (Tree.root bare).walk) ∧
      ReadsSame options (.root children) (.root bare) ∧
      ∀ wrapped, Relation.ReflTransGen Wraps children wrapped →
        ReadsSame options (.root children) (.root wrapped) := by
  intro bare
  refine ⟨?none, readsSame_unwrapping options children, ?wrapped⟩
  case none =>
    intro kind inner
    rw [Tree.walk_eq_preorder, Tree.root, Tree.preorder_element, List.mem_cons, not_or]
    exact ⟨by simp, Edit.container_not_mem_unwrapping children kind inner⟩
  case wrapped =>
    intro wrapped h
    apply readsSame_of_unwrapping
    induction h with
    | refl => rfl
    | tail _ hstep ih => exact hstep.unwrapping.trans ih

/-- A heading of two texts, and a link. -/
def bareSection : List Tree :=
  [.element (.heading 1 none) [.text "One", .text " two"], .element (.link "/x" none) []]

/-- The same with its second text emphasised. -/
def emphasisedSection : List Tree :=
  [.element (.heading 1 none) [.text "One", .element (.container "emphasis") [.text " two"]],
    .element (.link "/x" none) []]

/-- The same in two containers, one in the other. -/
def wrappedSection : List Tree :=
  [.element (.container "blockquote") [.element (.container "section") emphasisedSection]]

theorem wraps_wrappedSection : Relation.ReflTransGen Wraps bareSection wrappedSection := by
  have hemphasis : Wraps bareSection emphasisedSection :=
    .inside [] (.heading 1 none) [.element (.link "/x" none) []]
      (.here [.text "One"] [.text " two"] [] "emphasis")
  have hsection : Wraps emphasisedSection [.element (.container "section") emphasisedSection] :=
    .here [] emphasisedSection [] "section"
  have hquotation : Wraps [.element (.container "section") emphasisedSection] wrappedSection :=
    .here [] [.element (.container "section") emphasisedSection] [] "blockquote"
  exact ((Relation.ReflTransGen.single hemphasis).tail hsection).tail hquotation

theorem extract_unwrapped_section :
    Relation.ReflTransGen Wraps bareSection wrappedSection ∧
      Edit.unwrapping.trees wrappedSection = bareSection ∧
      extract { headingSlugs := true } (.root wrappedSection) = ⟨["one-two"], ["/x"], []⟩ ∧
      (Tree.root wrappedSection).flatten = "One two" := by
  obtain ⟨-, -, hwrapped⟩ := extract_unwrapped { headingSlugs := true } bareSection
  have hsame := hwrapped wrappedSection wraps_wrappedSection
  have hextract : extract { headingSlugs := true } (.root bareSection) =
      ⟨["one-two"], ["/x"], []⟩ := by
    decide +kernel
  have htext : (Tree.root bareSection).flatten = "One two" := by
    decide +kernel
  exact ⟨wraps_wrappedSection, rfl, hsame.extract.trans hextract, hsame.text.trans htext⟩

end LinkIndex

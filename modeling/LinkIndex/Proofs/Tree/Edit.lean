import LinkIndex.Proofs.Tree.Preorder
import Mathlib.Data.List.Basic

/-!
Edits of a document, node by node. An edit says of every element what it becomes,
or that its children take its place; and of every leaf whether it is kept. It says
so at every depth at once, yet the nodes of the edited document are those of the
document, each of them edited by itself, in the same order. A document is read
node by node, so whatever the single nodes keep, the document keeps.
-/

namespace LinkIndex

theorem Tree.induction {P : Tree → Prop} (leaf : ∀ l, P (.leaf l))
    (element : ∀ e children, (∀ t ∈ children, P t) → P (.element e children)) (t : Tree) :
    P t := by
  match t with
  | .leaf l => exact leaf l
  | .element e children => exact element e children fun t _ => Tree.induction leaf element t

structure Edit where
  /-- What becomes of an element. Where nothing does, its children take its place. -/
  element : Element → Option Element := some
  /-- Whether a leaf is kept. -/
  keepsLeaf : Leaf → Bool := fun _ => true

namespace Edit

mutual

def tree (edit : Edit) : Tree → List Tree
  | .leaf l => if edit.keepsLeaf l then [.leaf l] else []
  | .element e children =>
    match edit.element e with
    | some e' => [.element e' (edit.trees children)]
    | none => edit.trees children

def trees (edit : Edit) : List Tree → List Tree
  | [] => []
  | t :: rest => edit.tree t ++ edit.trees rest

end

/-- What an edit makes of a node, whose descendants stand behind it. -/
def node (edit : Edit) : Tree → List Tree
  | .leaf l => if edit.keepsLeaf l then [.leaf l] else []
  | .element e children => (edit.element e).toList.map fun e' => .element e' (edit.trees children)

variable {α : Type} {edit : Edit}

theorem trees_eq_flatMap (edit : Edit) (ts : List Tree) : edit.trees ts = ts.flatMap edit.tree := by
  induction ts with
  | nil => rfl
  | cons t rest ih => rw [trees, ih, List.flatMap_cons]

theorem trees_append (edit : Edit) (ts us : List Tree) :
    edit.trees (ts ++ us) = edit.trees ts ++ edit.trees us := by
  simp only [trees_eq_flatMap, List.flatMap_append]

theorem tree_element {e e' : Element} (h : edit.element e = some e') (children : List Tree) :
    edit.tree (.element e children) = [.element e' (edit.trees children)] := by
  rw [tree, h]

/-- What becomes of the children of an element is all that matters of them. -/
theorem tree_element_congr {children children' : List Tree}
    (h : edit.trees children' = edit.trees children) (e : Element) :
    edit.tree (.element e children') = edit.tree (.element e children) := by
  rw [tree, tree, h]

theorem flatMap_preorder_tree (edit : Edit) (t : Tree) :
    (edit.tree t).flatMap Tree.preorder = t.preorder.flatMap edit.node := by
  induction t using Tree.induction with
  | leaf l =>
      by_cases hl : edit.keepsLeaf l <;> simp [tree, node, hl]
  | element e children ih =>
      have hchildren : (edit.trees children).flatMap Tree.preorder =
          (children.flatMap Tree.preorder).flatMap edit.node := by
        rw [trees_eq_flatMap, List.flatMap_assoc, List.flatMap_assoc]
        exact List.flatMap_congr ih
      rw [Tree.preorder_element, List.flatMap_cons, ← hchildren]
      -- what the children become stands behind the element, or alone where it falls away
      cases he : edit.element e with
      | none => simp [tree, node, he]
      | some e' => simp [tree, node, he]

theorem flatMap_preorder_trees (edit : Edit) (ts : List Tree) :
    (edit.trees ts).flatMap Tree.preorder = (ts.flatMap Tree.preorder).flatMap edit.node := by
  rw [trees_eq_flatMap, List.flatMap_assoc, List.flatMap_assoc]
  exact List.flatMap_congr fun t _ => flatMap_preorder_tree edit t

/-- What is read of a node is the same when the node is edited. -/
def Keeps (edit : Edit) (own : Tree → List α) : Prop :=
  ∀ t, (edit.node t).flatMap own = own t

/-- An edit keeps what is read of nodes if nothing of it is lost with a leaf, and if an element
gives, with the children that it had, what is read of it in place of the former one. -/
theorem keeps_of_element {own : Tree → List α}
    (hleaf : ∀ l, edit.keepsLeaf l = false → own (.leaf l) = [])
    (hchildren : ∀ e children, own (.element e (edit.trees children)) = own (.element e children))
    (helement : ∀ e children,
      (edit.element e).elim [] (fun e' => own (.element e' children)) = own (.element e children)) :
    edit.Keeps own := by
  intro t
  cases t with
  | leaf l =>
      rw [node]
      cases hl : edit.keepsLeaf l with
      | true => exact List.flatMap_singleton ..
      | false => exact (hleaf l hl).symm
  | element e children =>
      rw [node, ← helement e children]
      cases edit.element e with
      | none => rfl
      | some e' => exact (List.flatMap_singleton ..).trans (hchildren e' children)

/-- What every node keeps is kept by the documents that are made of them. -/
theorem Keeps.trees {own : Tree → List α} (h : edit.Keeps own) (ts : List Tree) :
    ((edit.trees ts).flatMap Tree.preorder).flatMap own =
      (ts.flatMap Tree.preorder).flatMap own := by
  rw [flatMap_preorder_trees, List.flatMap_assoc]
  exact List.flatMap_congr fun t _ => h t

theorem Keeps.preorder {own : Tree → List α} (h : edit.Keeps own) {t u : Tree}
    (hu : edit.tree t = [u]) : u.preorder.flatMap own = t.preorder.flatMap own := by
  have hnodes := flatMap_preorder_tree edit t
  rw [hu, List.flatMap_singleton] at hnodes
  rw [hnodes, List.flatMap_assoc]
  exact List.flatMap_congr fun n _ => h n

end Edit

/-! ### The text of edited documents -/

namespace Tree

theorem toList_flatten (t : Tree) :
    t.flatten.toList = t.preorder.flatMap fun n => n.ownText.toList := by
  rw [flatten, String.toList_join, List.flatMap_map, walk_eq_preorder]

theorem ownText_element (e : Element) (children : List Tree) :
    (Tree.element e children).ownText = "" := rfl

/-- The text of an element is that of its children, whatever the element is. -/
theorem toList_flatten_element (e : Element) (children : List Tree) :
    (Tree.element e children).flatten.toList =
      (children.flatMap preorder).flatMap fun n => n.ownText.toList := by
  rw [toList_flatten, preorder_element, List.flatMap_cons, ownText_element]
  rfl

end Tree

namespace Edit.Keeps

variable {edit : Edit} {t u : Tree}

/-- Where the text of single nodes is kept, so is the text of a document. -/
theorem flatten_eq (h : edit.Keeps fun n => n.ownText.toList) (hu : edit.tree t = [u]) :
    u.flatten = t.flatten := by
  apply String.toList_inj.1
  rw [Tree.toList_flatten, Tree.toList_flatten, h.preorder hu]

/-- And so is the text of an element, whatever becomes of the element itself. -/
theorem flatten_element (h : edit.Keeps fun n => n.ownText.toList) (e e' : Element)
    (children : List Tree) :
    (Tree.element e' (edit.trees children)).flatten = (Tree.element e children).flatten := by
  apply String.toList_inj.1
  rw [Tree.toList_flatten_element, Tree.toList_flatten_element, h.trees]

end Edit.Keeps

end LinkIndex

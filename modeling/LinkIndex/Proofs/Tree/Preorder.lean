import LinkIndex.Tree.Basic

/-!
Document order, said by recursion: a node stands in front of the nodes of its
children, which follow one another. The walk with its list of pending trees
goes through the nodes in this order, so all that is said of a document node by
node can be proved along the shape of its tree.
-/

namespace LinkIndex

namespace Tree

mutual

/-- The nodes of a tree in document order. -/
def preorder : Tree → List Tree
  | .leaf l => [.leaf l]
  | .element e children => .element e children :: preorderAll children

/-- The nodes of several trees in document order. -/
def preorderAll : List Tree → List Tree
  | [] => []
  | t :: rest => preorder t ++ preorderAll rest

end

theorem preorderAll_eq_flatMap (ts : List Tree) :
    preorderAll ts = ts.flatMap preorder := by
  induction ts with
  | nil => rfl
  | cons t rest ih => rw [preorderAll, ih, List.flatMap_cons]

@[simp] theorem preorder_leaf (l : Leaf) : (Tree.leaf l).preorder = [.leaf l] := by
  rw [preorder]

@[simp] theorem preorder_element (e : Element) (children : List Tree) :
    (Tree.element e children).preorder =
      .element e children :: children.flatMap preorder := by
  rw [preorder, preorderAll_eq_flatMap]

def children : Tree → List Tree
  | .leaf _ => []
  | .element _ ts => ts

theorem preorder_eq (t : Tree) : t.preorder = t :: t.children.flatMap preorder := by
  cases t <;> simp [children]

/-- The invariant of the walk: what it has still to visit is what the pending
trees hold, each in document order. -/
theorem walkPending_eq_flatMap (pending : List Tree) :
    walkPending pending = pending.flatMap preorder := by
  fun_induction walkPending pending with
  | case1 => rfl
  | case2 l pending ih =>
      rw [ih, List.flatMap_cons, preorder_leaf, List.singleton_append]
  | case3 e children pending ih =>
      rw [ih, List.flatMap_append, List.flatMap_cons, preorder_element, List.cons_append]

theorem walk_eq_preorder (t : Tree) : t.walk = t.preorder := by
  rw [walk, walkPending_eq_flatMap, List.flatMap_singleton]

end Tree

end LinkIndex

import LinkIndex.Proofs.Tree.Grammar
import LinkIndex.Proofs.Tree.Preorder
import Mathlib.Data.List.Forall2

/-!
The nodes of a JSON value that stands for a tree, in document order, and that they are the
nodes of the tree that is read from it, each with its kind.

Which values below a node stand for its children is said without the reader: the items of
its list of children, unless its kind never takes any. What the reader does in one step,
down to the children of a node, is one lemma; the whole tree follows from it along the
recursion of `Json.nodes`.
-/

namespace LinkIndex

namespace Json

def kindName? : Json → Option String
  | .obj fields => Tree.optionalString fields "type"
  | _ => none

/-- The items of a list; none of anything else. -/
def itemsOf : Option Json → List Json
  | some (.arr items) => items
  | _ => []

/-- The values that stand for the children of a node. -/
def childNodes (v : Json) : List Json :=
  match v.kindName? with
  | some kind => if kind ∈ Tree.leafKinds then [] else itemsOf (v.get? "children")
  | none => []

theorem sizeOf_childNode_lt {v w : Json} (hw : w ∈ v.childNodes) : sizeOf w < sizeOf v := by
  rw [childNodes] at hw
  split at hw
  · rename_i kind hkind
    split at hw
    · simp at hw
    · rw [itemsOf.eq_def] at hw
      split at hw
      · rename_i items hitems
        cases v with
        | obj fields => exact Tree.sizeOf_item_lt hitems hw
        | _ => simp [kindName?] at hkind
      · simp at hw
  · simp at hw

/-- The values that stand for a node and for all below it, in document order. -/
def nodes (v : Json) : List Json :=
  v :: v.childNodes.attach.flatMap fun w => nodes w.1
termination_by v
decreasing_by exact sizeOf_childNode_lt w.2

theorem nodes_eq (v : Json) : v.nodes = v :: v.childNodes.flatMap nodes := by
  rw [nodes, List.flatMap_subtype fun _ _ => rfl, List.unattach_attach]

end Json

namespace Tree

open Json

def ownKinds : List String :=
  parentKinds ++ leafKinds

/-- Whether a node is carried by the name of its kind. -/
def isGeneric : Tree → Bool
  | .leaf (.literal ..) => true
  | .element (.container _) _ => true
  | _ => false

def IsReadAs (v : Json) (t : Tree) : Prop :=
  ofJson v = .ok t

variable {kind : String} {fields : Fields} {items : List Json} {ts : List Tree} {v : Json}
  {t : Tree}

/-! ### One step of the reader -/

theorem ofJsonAll_forall₂ (h : ofJsonAll items = .ok ts) : List.Forall₂ IsReadAs items ts := by
  induction items generalizing ts with
  | nil =>
      rw [ofJsonAll, Except.ok.injEq] at h
      exact h ▸ .nil
  | cons v rest ih =>
      rw [ofJsonAll] at h
      cases hv : ofJson v with
      | error e => simp [hv] at h
      | ok t =>
          cases hrest : ofJsonAll rest with
          | error e => simp [hv, hrest] at h
          | ok ts' =>
              simp only [hv, hrest, Except.ok.injEq] at h
              exact h ▸ .cons hv (ih hrest)

/-- What counts as absent is read as no children, as if it were an empty list. -/
theorem childList_forall₂ (h : childList kind v = .ok ts) :
    List.Forall₂ IsReadAs (itemsOf (some v)) ts := by
  cases v with
  | arr items =>
      rw [childList] at h
      exact ofJsonAll_forall₂ h
  | _ =>
      simp only [childList] at h
      split at h
      · rw [Except.ok.injEq] at h
        exact h ▸ .nil
      · simp at h

theorem childrenOf_forall₂ (h : childrenOf kind fields = .ok ts) :
    List.Forall₂ IsReadAs (itemsOf (Assoc.get? fields "children")) ts := by
  induction fields with
  | nil =>
      rw [childrenOf, Except.ok.injEq] at h
      exact h ▸ .nil
  | cons p rest ih =>
      rw [childrenOf] at h
      rw [Assoc.get?]
      split at h
      · rename_i hp
        rw [if_pos hp]
        exact childList_forall₂ h
      · rename_i hp
        rw [if_neg hp]
        exact ih h

def Head.node : Head → List Tree → Tree
  | .leaf l, _ => .leaf l
  | .element e, ts => .element e ts

/-- The head of a node keeps its kind, and carries it by name only where there is no constructor
for it. -/
theorem kind_of_head {h : Head} (hok : head kind fields = .ok h) (ts : List Tree) :
    (h.node ts).kind = kind ∧ ((h.node ts).isGeneric = true → kind ∉ ownKinds) := by
  unfold head at hok
  -- each branch that ends well knows the kind
  split at hok <;> repeat' split at hok
  all_goals cases hok
  all_goals simp_all [Head.node, Tree.kind, Element.kind, Leaf.kind, isGeneric, ownKinds,
    parentKinds, leafKinds]

/-- A tree is the head of a node with the children that were read for it. -/
theorem exists_node_of_ofJson (h : ofJson (.obj fields) = .ok t) :
    ∃ kind hd ts, optionalString fields "type" = some kind ∧ head kind fields = .ok hd ∧
      (hd.isElement = true → childrenOf kind fields = .ok ts) ∧ t = hd.node ts := by
  rw [ofJson] at h
  cases htype : optionalString fields "type" with
  | none => simp [htype] at h
  | some kind =>
      by_cases hkind : kind = ""
      · simp [htype, hkind] at h
      · cases hhead : head kind fields with
        | error e => simp [htype, hkind, hhead] at h
        | ok hd =>
            cases hd with
            | leaf l =>
                simp only [htype, hkind, hhead, if_false, Except.ok.injEq] at h
                exact ⟨kind, .leaf l, [], rfl, hhead, by simp [Head.isElement], h.symm⟩
            | element e =>
                cases hchildren : childrenOf kind fields with
                | error e' => simp [htype, hkind, hhead, hchildren] at h
                | ok ts =>
                    simp only [htype, hkind, hhead, hchildren, if_false, Except.ok.injEq] at h
                    exact ⟨kind, .element e, ts, rfl, hhead, fun _ => hchildren, h.symm⟩

/-- No list of children is passed over: a node is read without children where its kind takes none,
or where there is no field for them. -/
theorem childNodes_of_head {hd : Head} (htype : optionalString fields "type" = some kind)
    (hhead : head kind fields = .ok hd) :
    (Json.obj fields).childNodes =
      if hd.isElement = true then itemsOf (Assoc.get? fields "children") else [] := by
  have hkind : (Json.obj fields).kindName? = some kind := htype
  have htakes := isElement_iff_of_head hhead
  rw [childNodes, hkind]
  by_cases helement : hd.isElement = true
  · have hparent : kind ∉ leafKinds := by
      rcases htakes.1 helement with hparent | hother
      · have hdisjoint : ∀ k ∈ parentKinds, k ∉ leafKinds := by decide
        exact hdisjoint kind hparent
      · exact hother.1
    rw [if_pos helement]
    simp only [if_neg hparent]
    rfl
  · rw [htakes, TakesChildren, not_or, not_and] at helement
    rw [if_neg (htakes.not.2 (not_or.2 ⟨helement.1, not_and.2 helement.2⟩))]
    by_cases hleaf : kind ∈ leafKinds
    · simp only [if_pos hleaf]
    · have hnone : Assoc.get? fields "children" = none := by
        simpa [Assoc.has] using helement.2 hleaf
      simp only [if_neg hleaf, Json.get?, hnone]
      rfl

/-- What is read of a value is its kind, and its children from the values that stand for them. -/
theorem IsReadAs.step (h : IsReadAs v t) :
    v.kindName? = some t.kind ∧ (t.isGeneric = true → t.kind ∉ ownKinds) ∧
      List.Forall₂ IsReadAs v.childNodes t.children := by
  rw [IsReadAs] at h
  cases v with
  | obj fields =>
      obtain ⟨kind, hd, ts, htype, hhead, hchildren, rfl⟩ := exists_node_of_ofJson h
      obtain ⟨hkind, hgeneric⟩ := kind_of_head hhead ts
      rw [hkind, childNodes_of_head htype hhead]
      refine ⟨htype, hgeneric, ?_⟩
      cases hd with
      | leaf l => exact .nil
      | element e => exact childrenOf_forall₂ (hchildren rfl)
  | _ => simp [ofJson] at h

/-! ### The whole tree -/

theorem forall₂_flatMap {α β γ δ : Type} {R : α → β → Prop} {S : γ → δ → Prop} {f : α → List γ}
    {g : β → List δ} {xs : List α} {ys : List β} (h : List.Forall₂ R xs ys)
    (hstep : ∀ x ∈ xs, ∀ y, R x y → List.Forall₂ S (f x) (g y)) :
    List.Forall₂ S (xs.flatMap f) (ys.flatMap g) := by
  induction h with
  | nil => exact .nil
  | @cons x y xs ys hxy _ ih =>
      rw [List.flatMap_cons, List.flatMap_cons]
      refine List.rel_append (hstep x List.mem_cons_self y hxy) (ih fun x' hx' => ?_)
      exact hstep x' (List.mem_cons_of_mem x hx')

/-- Node by node and in the same order, the tree is what is read of the values in it. -/
theorem IsReadAs.nodes (h : IsReadAs v t) : List.Forall₂ IsReadAs v.nodes t.walk := by
  rw [walk_eq_preorder]
  induction v using Json.nodes.induct generalizing t with
  | case1 v ih =>
      rw [nodes_eq, preorder_eq]
      refine .cons h (forall₂_flatMap h.step.2.2 fun w hw n hn => ih ⟨w, hw⟩ hn)

/-- The tree that is read from a value holds what is read of the nodes of the value, one by one and
in the same order, each under the name of its kind; and under the name of a kind that has a
constructor of its own no node is carried by its name alone. -/
theorem ofJson_nodes (h : ofJson v = .ok t) :
    List.Forall₂ IsReadAs v.nodes t.walk ∧
      v.nodes.map kindName? = t.walk.map (fun n => some n.kind) ∧
      ∀ n ∈ t.walk, n.isGeneric = true → n.kind ∉ ownKinds := by
  have hnodes : List.Forall₂ IsReadAs v.nodes t.walk := IsReadAs.nodes h
  refine ⟨hnodes, ?kinds, ?generic⟩
  case kinds =>
    rw [← List.forall₂_eq_eq_eq, List.forall₂_map_left_iff, List.forall₂_map_right_iff]
    exact hnodes.imp fun w n hwn => hwn.step.1
  case generic =>
    have hread : List.Forall₂
        (fun n w => (n.isGeneric = true → n.kind ∉ ownKinds) ∧ IsReadAs w n) t.walk v.nodes :=
      (List.Forall₂.flip hnodes).imp fun n w (hwn : IsReadAs w n) => ⟨hwn.step.2.1, hwn⟩
    exact ((List.forall₂_and_left _ _).1 hread).1

/-- A quotation whose children count as absent, and an image whose children are not read. -/
def mixedPage : Json :=
  .obj [("type", .str "root"), ("children", .arr [
    .obj [("children", .arr [.obj [("type", .str "text"), ("value", .str "a")]]),
      ("type", .str "heading"), ("depth", .int 2)],
    .obj [("type", .str "blockquote"), ("children", .int 0)],
    .obj [("type", .str "image"), ("children", .arr [.obj [("type", .str "text")]])],
    .obj [("type", .str "yaml"), ("value", .str "b: c")]])]

def mixedTree : Tree :=
  .root [.element (.heading 2 none) [.text "a"], .element (.container "blockquote") [],
    .leaf (.image "" none none), .leaf (.literal "yaml" "b: c")]

theorem ofJson_nodes_mixedPage :
    ofJson mixedPage = .ok mixedTree ∧
      mixedPage.nodes.map kindName? =
        [some "root", some "heading", some "text", some "blockquote", some "image", some "yaml"] ∧
      ∀ n ∈ mixedTree.walk, n.isGeneric = true → n.kind ∉ ownKinds := by
  have hread : ofJson mixedPage = .ok mixedTree := by rfl
  obtain ⟨-, hkinds, hgeneric⟩ := ofJson_nodes hread
  refine ⟨hread, hkinds.trans ?_, hgeneric⟩
  rw [walk_eq_preorder]
  rfl

end Tree

end LinkIndex

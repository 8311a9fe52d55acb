import LinkIndex.Proofs.Assoc
import LinkIndex.Proofs.Extract.References
import LinkIndex.Proofs.Markdown.Refusal
import Mathlib

/-!
Links by reference. Two tables say what a label stands for: the one by which the links of a
text are resolved, filled from its blocks, and the definitions of the tree that is made of
them. They are the same, so a link goes where the last definition of its label says,
wherever the two stand.
-/

namespace LinkIndex

/-! ### What is read off a tree -/

namespace Tree

/-- The URL of a node, if it is a link. -/
def ownLink : Tree → List String
  | .element (.link url _) _ => [url]
  | _ => []

def linkUrls (t : Tree) : List String :=
  t.preorder.flatMap ownLink

variable {α : Type} (own : Tree → List α)

@[simp] theorem flatMap_preorder_leaf (l : Leaf) :
    (Tree.leaf l).preorder.flatMap own = own (.leaf l) := by
  rw [preorder_leaf, List.flatMap_singleton]

@[simp] theorem flatMap_preorder_element (e : Element) (children : List Tree) :
    (Tree.element e children).preorder.flatMap own =
      own (.element e children) ++ children.flatMap fun t => t.preorder.flatMap own := by
  rw [preorder_element, List.flatMap_cons, List.flatMap_assoc]

end Tree

namespace Markdown

/-! ### Blocks -/

/-- The texts of the paragraphs and headings of blocks, in document order. -/
def bodies (blocks : List Block) : List (List Char) :=
  (leavesAll blocks).filterMap Block.body?

/-- Puts pairs into a table, one after the other. -/
def putAll (labels : Labels) (pairs : List (List Char × Target)) : Labels :=
  pairs.foldl (fun m p => m.put p.1 p.2) labels

theorem putAll_append (labels : Labels) (pairs more : List (List Char × Target)) :
    putAll labels (pairs ++ more) = putAll (putAll labels pairs) more :=
  List.foldl_append

mutual

/-- The table is filled in document order, whatever the blocks stand in. -/
theorem labelsOf_eq_putAll (labels : Labels) (b : Block) :
    labelsOf labels b = putAll labels ((leaves b).filterMap Block.definition?) := by
  match b with
  | .quote blocks => rw [labelsOf, leaves, labelsOfAll_eq_putAll]
  | .list items => rw [labelsOf, leaves, labelsOfItems_eq_putAll]
  | .definition _ | .paragraph _ | .heading _ _ | .thematicBreak | .code _ | .markup _ => rfl

theorem labelsOfAll_eq_putAll (labels : Labels) (blocks : List Block) :
    labelsOfAll labels blocks = putAll labels ((leavesAll blocks).filterMap Block.definition?) := by
  match blocks with
  | [] => rfl
  | b :: rest =>
      rw [labelsOfAll, leavesAll, List.filterMap_append, putAll_append, labelsOf_eq_putAll,
        labelsOfAll_eq_putAll]

theorem labelsOfItems_eq_putAll (labels : Labels) (items : List (List Block)) :
    labelsOfItems labels items =
      putAll labels ((leavesItems items).filterMap Block.definition?) := by
  match items with
  | [] => rfl
  | item :: rest =>
      rw [labelsOfItems, leavesItems, List.filterMap_append, putAll_append, labelsOfAll_eq_putAll,
        labelsOfItems_eq_putAll]

end

/-- What is read off trees: nothing off containers, and `ofPlain` off the trees of blocks that
hold no others. -/
structure IsReading {α : Type} (own : Tree → List α) (labels : Labels)
    (ofPlain : Block → List α) : Prop where
  own_container : ∀ kind children, own (container kind children) = []
  read_plain : ∀ b : Block, b.isPlain = true → ∀ t, treeOf labels b = .ok t →
    t.preorder.flatMap own = ofPlain b

namespace IsReading

variable {α : Type} {own : Tree → List α} {labels : Labels} {ofPlain : Block → List α}

theorem read_container (h : IsReading own labels ofPlain) (kind : String) (children : List Tree) :
    (container kind children).preorder.flatMap own =
      children.flatMap fun t => t.preorder.flatMap own := by
  have hown := h.own_container kind children
  rw [container] at hown ⊢
  rw [Tree.flatMap_preorder_element, hown, List.nil_append]

mutual

/-- What is read off the tree of a block is what its leaves give. -/
theorem read_treeOf (h : IsReading own labels ofPlain) (b : Block) {t : Tree}
    (ht : treeOf labels b = .ok t) :
    t.preorder.flatMap own = (leaves b).flatMap ofPlain := by
  match b with
  | .quote blocks =>
      simp only [treeOf, bind_eq_ok_iff, pure_eq_ok_iff] at ht
      obtain ⟨ts, hts, rfl⟩ := ht
      rw [h.read_container, leaves, read_treesOf h blocks hts]
  | .list items =>
      simp only [treeOf, bind_eq_ok_iff, pure_eq_ok_iff] at ht
      obtain ⟨ts, hts, rfl⟩ := ht
      rw [h.read_container, leaves, read_itemTrees h items hts]
  | .definition _ | .paragraph _ | .heading _ _ | .thematicBreak | .code _ | .markup _ =>
      rw [h.read_plain _ rfl t ht, leaves, List.flatMap_singleton] <;> simp

theorem read_treesOf (h : IsReading own labels ofPlain) (blocks : List Block) {ts : List Tree}
    (hts : treesOf labels blocks = .ok ts) :
    ts.flatMap (fun t => t.preorder.flatMap own) = (leavesAll blocks).flatMap ofPlain := by
  match blocks with
  | [] =>
      simp only [treesOf, pure_eq_ok_iff] at hts
      rw [← hts]
      rfl
  | b :: rest =>
      simp only [treesOf, bind_eq_ok_iff, pure_eq_ok_iff] at hts
      obtain ⟨t, ht, more, hmore, rfl⟩ := hts
      rw [leavesAll, List.flatMap_cons, List.flatMap_append, read_treeOf h b ht,
        read_treesOf h rest hmore]

theorem read_itemTrees (h : IsReading own labels ofPlain) (items : List (List Block))
    {ts : List Tree} (hts : itemTrees labels items = .ok ts) :
    ts.flatMap (fun t => t.preorder.flatMap own) = (leavesItems items).flatMap ofPlain := by
  match items with
  | [] =>
      simp only [itemTrees, pure_eq_ok_iff] at hts
      rw [← hts]
      rfl
  | item :: rest =>
      simp only [itemTrees, bind_eq_ok_iff, pure_eq_ok_iff] at hts
      obtain ⟨inner, hinner, more, hmore, rfl⟩ := hts
      rw [leavesItems, List.flatMap_cons, List.flatMap_append, h.read_container,
        read_treesOf h item hinner, read_itemTrees h rest hmore]

end

end IsReading

/-! ### Spans -/

/-- What is decoded for the URL of a span, if it is a link. -/
def Mark.url? : Mark → Option (Except Html.Overlong String)
  | .link target => some (plainText target.dest)
  | .autolink dest _ => some (.ok (String.ofList dest))
  | _ => none

/-- Whether the nodes in the text of a span stay nodes. The description of an image does not. -/
def Mark.keepsNodes : Mark → Bool
  | .emphasis => true
  | .strong => true
  | .link _ => true
  | _ => false

def linksAmong (spans : List Span) : List Span :=
  (among Mark.keepsNodes spans).filter fun s => s.mark.url?.isSome

theorem mem_of_mem_linksAmong {s : Span} {spans : List Span} (h : s ∈ linksAmong spans) :
    s ∈ spans :=
  mem_of_mem_among (List.mem_of_mem_filter h)

/-- What is read off the node of a span, where nothing is read off plain text and `inner` off the
nodes of its text. -/
theorem read_nodeOf {α : Type} {own : Tree → List α} (htext : ∀ value, own (.text value) = [])
    {mark : Mark} {raw : List Char} {children : Except Html.Overlong (List Tree)} {node : Tree}
    {inner : List α} (hnode : nodeOf mark raw children = .ok node)
    (hinner : ∀ cs, children = .ok cs →
      (cs.flatMap fun t => t.preorder.flatMap own) = inner) :
    node.preorder.flatMap own = own node ++ if mark.keepsNodes then inner else [] := by
  have htext' (value : String) : own (.leaf (.text value)) = [] := htext value
  have helement (e : Element) (cs : List Tree) (hcs : children = .ok cs) :
      (Tree.element e cs).preorder.flatMap own = own (.element e cs) ++ inner := by
    rw [Tree.flatMap_preorder_element, hinner cs hcs]
  cases mark with
  | lineBreak hard =>
      cases hard <;> simp only [nodeOf, pure_eq_ok_iff] at hnode <;> subst hnode <;>
        simp [Mark.keepsNodes, Tree.text]
  | emphasis | strong =>
      simp only [nodeOf, bind_eq_ok_iff, pure_eq_ok_iff] at hnode
      obtain ⟨cs, hcs, rfl⟩ := hnode
      exact helement _ cs hcs
  | link target =>
      simp only [nodeOf, bind_eq_ok_iff, pure_eq_ok_iff] at hnode
      obtain ⟨url, -, title, -, cs, hcs, rfl⟩ := hnode
      exact helement _ cs hcs
  | image target =>
      simp only [nodeOf, bind_eq_ok_iff, pure_eq_ok_iff] at hnode
      obtain ⟨cs, -, url, -, title, -, rfl⟩ := hnode
      simp [Mark.keepsNodes]
  | _ =>
      simp only [nodeOf, pure_eq_ok_iff] at hnode
      subst hnode
      simp [Mark.keepsNodes, Tree.text, htext']

/-- What is read off the nodes of a text, where nothing is read off plain text. Each span that
stays gives what its mark does, and then what those in its text give, unless its node has no
children. -/
theorem read_nodesBetween {α : Type} (own : Tree → List α) (ofMark : Mark → List α)
    (ofSpans : List Span → List α) (htext : ∀ value, own (.text value) = [])
    (hmark : ∀ mark raw children node, nodeOf mark raw children = .ok node →
      own node = ofMark mark)
    (hspans : ∀ spans, ofSpans spans = (settle spans).flatMap fun p =>
      ofMark p.1.mark ++ if p.1.mark.keepsNodes then ofSpans p.2 else [])
    (text : Array Char) {fuel : Nat} (start stop : Nat) {spans : List Span}
    (hfuel : spans.length < fuel) {ns : List Tree}
    (hns : nodesBetween text fuel start stop spans = .ok ns) :
    (ns.flatMap fun t => t.preorder.flatMap own) = ofSpans spans := by
  have htext' (value : String) : (Tree.text value).preorder.flatMap own = [] :=
    (Tree.flatMap_preorder_leaf own _).trans (htext value)
  induction fuel generalizing start stop spans ns with
  | zero => omega
  | succ fuel ih =>
      simp only [nodesBetween, bind_eq_ok_iff, pure_eq_ok_iff] at hns
      obtain ⟨pairs, hpairs, rfl⟩ := hns
      rw [flatMap_withTexts _ htext', hspans]
      refine flatMap_of_mapM_eq_ok hpairs fun p hp q hq => ?_
      simp only [spanNode, bind_eq_ok_iff, pure_eq_ok_iff] at hq
      obtain ⟨node, hnode, rfl⟩ := hq
      have hlt := length_lt_of_mem_settle hp
      have hinner (cs : List Tree)
          (hcs : nodesBetween text fuel p.1.innerStart p.1.innerStop p.2 = .ok cs) :
          (cs.flatMap fun t => t.preorder.flatMap own) = ofSpans p.2 :=
        ih _ _ (by omega) hcs
      rw [read_nodeOf htext hnode hinner, hmark _ _ _ _ hnode]

/-- The URL of a node, if it is a link, as what was decoded for it. -/
def ownDecoded (t : Tree) : List (Option (Except Html.Overlong String)) :=
  t.ownLink.map fun url => some (.ok url)

/-- By itself the node of a span is no definition, and it is a link where the span is one. -/
theorem own_nodeOf {mark : Mark} {raw : List Char} {children : Except Html.Overlong (List Tree)}
    {node : Tree} (hnode : nodeOf mark raw children = .ok node) :
    node.ownDefinition = [] ∧ ownDecoded node = mark.url?.toList.map some := by
  cases mark with
  | lineBreak hard =>
      cases hard <;> simp only [nodeOf, pure_eq_ok_iff] at hnode <;> subst hnode <;>
        exact ⟨rfl, rfl⟩
  | emphasis | strong =>
      simp only [nodeOf, bind_eq_ok_iff, pure_eq_ok_iff] at hnode
      obtain ⟨cs, -, rfl⟩ := hnode
      exact ⟨rfl, rfl⟩
  | link target =>
      simp only [nodeOf, bind_eq_ok_iff, pure_eq_ok_iff] at hnode
      obtain ⟨url, hurl, title, -, cs, -, rfl⟩ := hnode
      rw [Mark.url?, hurl]
      exact ⟨rfl, rfl⟩
  | image target =>
      simp only [nodeOf, bind_eq_ok_iff, pure_eq_ok_iff] at hnode
      obtain ⟨cs, -, url, -, title, -, rfl⟩ := hnode
      exact ⟨rfl, rfl⟩
  | _ =>
      simp only [nodeOf, pure_eq_ok_iff] at hnode
      subst hnode
      exact ⟨rfl, rfl⟩

/-- The links of the nodes of a text are those among its spans. -/
theorem linkUrls_nodesBetween (text : Array Char) {fuel : Nat} (start stop : Nat)
    {spans : List Span} (hfuel : spans.length < fuel) {ns : List Tree}
    (hns : nodesBetween text fuel start stop spans = .ok ns) :
    (ns.flatMap fun t => t.preorder.flatMap ownDecoded) =
      (linksAmong spans).map fun s => s.mark.url? := by
  have hspans (spans : List Span) : ((linksAmong spans).map fun s => s.mark.url?) =
      (settle spans).flatMap fun p => p.1.mark.url?.toList.map some ++
        if p.1.mark.keepsNodes then (linksAmong p.2).map fun s => s.mark.url? else [] := by
    rw [linksAmong, among_eq, List.filter_flatMap, List.map_flatMap]
    refine List.flatMap_congr fun p _ => ?_
    cases hurl : p.1.mark.url? <;> cases p.1.mark.keepsNodes <;> simp [hurl, linksAmong]
  exact read_nodesBetween ownDecoded (fun mark => mark.url?.toList.map some)
    (fun spans => (linksAmong spans).map fun s => s.mark.url?) (fun _ => rfl)
    (fun _ _ _ _ hnode => (own_nodeOf hnode).2) hspans text start stop hfuel hns

theorem ownDefinition_nodesBetween (text : Array Char) {fuel : Nat} (start stop : Nat)
    {spans : List Span} (hfuel : spans.length < fuel) {ns : List Tree}
    (hns : nodesBetween text fuel start stop spans = .ok ns) :
    ns.flatMap (fun t => t.preorder.flatMap Tree.ownDefinition) = [] :=
  read_nodesBetween Tree.ownDefinition (fun _ => []) (fun _ => []) (fun _ => rfl)
    (fun _ _ _ _ hnode => (own_nodeOf hnode).1) (fun _ => by simp) text start stop hfuel hns

/-! ### Documents -/

/-- A label of a table with what its destination is decoded to. -/
def entry (p : List Char × Target) : String × Except Html.Overlong String :=
  (String.ofList p.1, plainText p.2.dest)

/-- An identifier of a tree with its URL, as what was decoded for it. -/
def decodedEntry (p : String × String) : String × Except Html.Overlong String :=
  (p.1, .ok p.2)

theorem isReading_definitions (labels : Labels) :
    IsReading (fun t => t.ownDefinition.map decodedEntry) labels
      fun b => b.definition?.toList.map entry where
  own_container _ _ := rfl
  read_plain b hb t ht := by
    have hnone (ts : List Tree) : ts.flatMap (fun t => t.preorder.flatMap fun t =>
        t.ownDefinition.map decodedEntry) =
          (ts.flatMap fun t => t.preorder.flatMap Tree.ownDefinition).map decodedEntry := by
      simp only [List.map_flatMap]
    cases b with
    | quote blocks => cases hb
    | list items => cases hb
    | paragraph body | heading level body =>
        simp only [treeOf, nodes, bind_eq_ok_iff, pure_eq_ok_iff] at ht
        obtain ⟨ns, hns, rfl⟩ := ht
        refine (Tree.flatMap_preorder_element _ _ _).trans ?_
        rw [hnone, ownDefinition_nodesBetween _ _ _ (Nat.lt_succ_self _) hns]
        rfl
    | thematicBreak | code body | markup body =>
        simp only [treeOf, pure_eq_ok_iff] at ht
        subst ht
        rfl
    | definition d =>
        simp only [treeOf, definitionNode, bind_eq_ok_iff, pure_eq_ok_iff] at ht
        obtain ⟨url, hurl, title, -, rfl⟩ := ht
        simp [Tree.ownDefinition, decodedEntry, entry, Block.definition?, hurl]

variable {text : String} {t : Tree}

/-- The table of a text and the definitions of its tree are the same. -/
theorem ofTree_parse (ht : parse text = .ok t) :
    (labelsOfAll [] (blocks text.toList)).map entry =
      (Definitions.ofTree t).map decodedEntry := by
  simp only [parse, bind_eq_ok_iff, pure_eq_ok_iff] at ht
  obtain ⟨ts, hts, rfl⟩ := ht
  have hread := (isReading_definitions (labelsOfAll [] (blocks text.toList))).read_treesOf
    (blocks text.toList) hts
  have hdefinitions : ((Tree.root ts).preorder.flatMap Tree.ownDefinition).map decodedEntry =
      ((leavesAll (blocks text.toList)).filterMap Block.definition?).map entry := by
    rw [List.map_flatMap, Tree.root, Tree.flatMap_preorder_element, hread,
      List.filterMap_eq_flatMap_toList, List.map_flatMap]
    rfl
  have htable := Assoc.ofList_map (g := fun t : Target => plainText t.dest)
    (f := String.ofList) (fun _ _ => String.ofList_injective)
    ((leavesAll (blocks text.toList)).filterMap Block.definition?)
  have htree := Assoc.ofList_map (f := id) (g := Except.ok (ε := Html.Overlong))
    Function.injective_id ((Tree.root ts).preorder.flatMap Tree.ownDefinition)
  rw [labelsOfAll_eq_putAll, Tree.definitions_eq_ofList]
  refine htable.symm.trans (Eq.trans ?_ htree)
  exact congrArg Assoc.ofList hdefinitions.symm

theorem definedUrl?_parse (ht : parse text = .ok t) (label : List Char) :
    ((labelsOfAll [] (blocks text.toList)).get? label).map (fun t => plainText t.dest) =
      (t.definedUrl? (String.ofList label)).map .ok := by
  have htable := Assoc.get?_map (g := fun t : Target => plainText t.dest) (f := String.ofList)
    (fun _ _ => String.ofList_injective) (labelsOfAll [] (blocks text.toList)) label
  have htree := Assoc.get?_map (f := id) (g := Except.ok (ε := Html.Overlong))
    Function.injective_id (Definitions.ofTree t) (String.ofList label)
  rw [Definitions.get?_ofTree] at htree
  rw [← htable, ← htree]
  exact congrArg (Assoc.get? · (String.ofList label)) (ofTree_parse ht)

/-- The links of a text by the table by which they are resolved. -/
def linksOf (labels : Labels) (body : List Char) : List Span :=
  linksAmong (spans labels body)

theorem isReading_links (labels : Labels) :
    IsReading ownDecoded labels fun b =>
      b.body?.toList.flatMap fun body => (linksOf labels body).map fun s => s.mark.url? where
  own_container _ _ := rfl
  read_plain b hb t ht := by
    cases b with
    | quote blocks => cases hb
    | list items => cases hb
    | paragraph body | heading level body =>
        simp only [treeOf, nodes, bind_eq_ok_iff, pure_eq_ok_iff] at ht
        obtain ⟨ns, hns, rfl⟩ := ht
        refine (Tree.flatMap_preorder_element _ _ _).trans ?_
        rw [linkUrls_nodesBetween _ _ _ (Nat.lt_succ_self _) hns]
        exact (List.flatMap_singleton ..).symm
    | thematicBreak | code body | markup body =>
        simp only [treeOf, pure_eq_ok_iff] at ht
        subst ht
        rfl
    | definition d =>
        simp only [treeOf, definitionNode, bind_eq_ok_iff, pure_eq_ok_iff] at ht
        obtain ⟨url, -, title, -, rfl⟩ := ht
        rfl

theorem linkUrls_parse (ht : parse text = .ok t) :
    t.linkUrls.map (fun url => some (.ok url)) =
      (bodies (blocks text.toList)).flatMap fun body =>
        (linksOf (labelsOfAll [] (blocks text.toList)) body).map fun s => s.mark.url? := by
  simp only [parse, bind_eq_ok_iff, pure_eq_ok_iff] at ht
  obtain ⟨ts, hts, rfl⟩ := ht
  have hread := (isReading_links (labelsOfAll [] (blocks text.toList))).read_treesOf
    (blocks text.toList) hts
  rw [Tree.linkUrls, List.map_flatMap, bodies, List.filterMap_eq_flatMap_toList, List.flatMap_assoc,
    ← hread, Tree.root]
  exact Tree.flatMap_preorder_element ownDecoded _ _

/-- The label that a text in brackets refers to: the one behind the brackets, or else the text
itself. -/
def referenceLabel (inside behind : List Char) : List Char :=
  normalizeLabel <|
    match label? behind with
    | some (label, _) => if label = [] then inside else label
    | none => inside

/-- What is decoded for the URL of a text in brackets, where it is one of a link. A target behind
the brackets comes before all labels, and a label stands for what the tree defines it to be. -/
def urlBehind? (t : Tree) (inside behind : List Char) : Option (Except Html.Overlong String) :=
  match inlineTarget? behind with
  | some (target, _) => some (plainText target.dest)
  | none => (t.definedUrl? (String.ofList (referenceLabel inside behind))).map .ok

/-- The URL of a link in a text, by its form and by the definitions of a tree. -/
def urlAt? (t : Tree) (body : List Char) (s : Span) : Option (Except Html.Overlong String) :=
  match s.mark with
  | .link _ => urlBehind? t (s.inside body) (s.behind body)
  | .autolink dest _ => some (.ok (String.ofList dest))
  | _ => none

theorem targetBehind?_parse (ht : parse text = .ok t) (inside behind : List Char) :
    (targetBehind? (labelsOfAll [] (blocks text.toList)) inside behind).map
        (fun r => plainText r.1.dest) =
      urlBehind? t inside behind := by
  rw [targetBehind?, urlBehind?]
  cases inlineTarget? behind with
  | some r => rfl
  | none =>
      rw [← definedUrl?_parse ht, referenceLabel]
      cases label? behind with
      | some r => simp only [Option.map_map, Function.comp_def]
      | none => simp only [Option.map_map, Function.comp_def]

/-- Links by reference go where the definitions of the tree say. There is a tree unless a number
in a destination or a title is too long. The table by which links are resolved has the
definitions of the tree; a text in brackets is a link where a target follows or where the tree
defines its label; and the links of the tree are those of the texts of its paragraphs and
headings, each with the URL that its form and the tree give it. -/
theorem references_resolved (text : String) :
    ((∃ t, parse text = .ok t) ↔ ∀ target ∈ targets text, target.IsReadable) ∧
      ∀ t, parse text = .ok t →
        (labelsOfAll [] (blocks text.toList)).map entry =
            (Definitions.ofTree t).map decodedEntry ∧
          (∀ inside behind : List Char,
            (targetBehind? (labelsOfAll [] (blocks text.toList)) inside behind).map
                (fun r => plainText r.1.dest) =
              urlBehind? t inside behind) ∧
          t.linkUrls.map (fun url => some (.ok url)) =
            (bodies (blocks text.toList)).flatMap fun body =>
              (linksOf (labelsOfAll [] (blocks text.toList)) body).map (urlAt? t body) := by
  refine ⟨exists_parse_iff text, fun t ht => ⟨ofTree_parse ht, targetBehind?_parse ht, ?_⟩⟩
  rw [linkUrls_parse ht]
  refine List.flatMap_congr fun body _ => List.map_congr_left fun s hs => ?_
  rw [urlAt?]
  cases hmark : s.mark with
  | link target =>
      obtain ⟨length, htarget⟩ := isResolved_of_mem_spans (mem_of_mem_linksAmong hs) target hmark
      have hurl := targetBehind?_parse ht (s.inside body) (s.behind body)
      rw [htarget] at hurl
      exact hurl
  | _ => rfl

def describedLink : String := "![a [b][x] c](/img)\n\n[x]: /u\n"

/-- The span of the link in the text of the image. -/
def describedSpan : Span := ⟨4, 10, 5, 6, .link ⟨"/u".toList, none⟩⟩

theorem blocks_describedLink : blocks describedLink.toList =
    [.paragraph "![a [b][x] c](/img)".toList, .definition ⟨"x".toList, "/u".toList, none⟩] := by
  cbv

theorem spans_describedLink :
    spans [("x".toList, ⟨"/u".toList, none⟩)] "![a [b][x] c](/img)".toList =
      [⟨0, 19, 2, 12, .image ⟨"/img".toList, none⟩⟩, describedSpan] := by
  cbv

theorem labels_describedLink : labelsOfAll [] (blocks describedLink.toList) =
    [("x".toList, ⟨"/u".toList, none⟩)] := by
  rw [blocks_describedLink]
  rfl

theorem parse_describedLink : parse describedLink =
    .ok (.root [container "paragraph" [.leaf (.image "/img" (some "a b c") none)],
      .leaf (.definition "x" "/u" (some "x") none)]) := by
  rw [parse, labels_describedLink, blocks_describedLink]
  simp only [treesOf, treeOf, nodes, spans_describedLink]
  cbv

/-- A link by reference whose label is defined, and which is no link of the tree: it stands in the
description of an image, where a tree keeps plain text. -/
theorem described_reference_no_link :
    ∃ t, parse describedLink = .ok t ∧
      ∃ body ∈ bodies (blocks describedLink.toList),
        ∃ s ∈ spans (labelsOfAll [] (blocks describedLink.toList)) body,
          s.mark = .link ⟨"/u".toList, none⟩ ∧ inlineTarget? (s.behind body) = none ∧
            urlAt? t body s = some (.ok "/u") ∧ t.linkUrls = [] := by
  refine ⟨_, parse_describedLink, "![a [b][x] c](/img)".toList, ?_, describedSpan, ?_, rfl, ?_, ?_,
    rfl⟩
  · rw [blocks_describedLink]
    exact List.mem_singleton_self _
  · rw [labels_describedLink, spans_describedLink]
    exact List.mem_cons_of_mem _ (List.mem_singleton_self _)
  · cbv
  · have htarget := targetBehind?_parse parse_describedLink
      (describedSpan.inside "![a [b][x] c](/img)".toList)
      (describedSpan.behind "![a [b][x] c](/img)".toList)
    rw [labels_describedLink] at htarget
    refine htarget.symm.trans ?_
    cbv

end Markdown

end LinkIndex

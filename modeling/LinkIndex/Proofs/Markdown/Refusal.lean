import LinkIndex.Markdown
import LinkIndex.Proofs.Except
import LinkIndex.Proofs.Html.References
import LinkIndex.Proofs.Markdown.Spans

/-!
Which documents have no tree. Everything is Markdown, so a text is refused for one thing
only: a destination or a title that is decoded for the tree, in which a decimal reference has
more digits than are read. These are the targets of the definitions, and of the links and
images whose spans stay.
-/

namespace LinkIndex.Markdown

/-! ### Targets -/

theorem exists_plainText_iff (raw : List Char) :
    (∃ text, plainText raw = .ok text) ↔ ¬Html.HasOverlong (dropEscapes raw) := by
  rw [← Html.exists_decode_iff, plainText]
  simp

/-- The destination of a target and its title, if it has one. -/
def Target.texts (t : Target) : List (List Char) :=
  t.dest :: t.title.toList

/-- Every number in the texts of a target can be read. -/
def Target.IsReadable (t : Target) : Prop :=
  ∀ raw ∈ t.texts, ¬Html.HasOverlong (dropEscapes raw)

theorem exists_titleText_iff (t : Target) :
    (∃ title, t.titleText = .ok title) ↔
      ∀ raw ∈ t.title.toList, ¬Html.HasOverlong (dropEscapes raw) := by
  rw [Target.titleText]
  have hempty : ¬Html.HasOverlong (dropEscapes []) :=
    (exists_plainText_iff []).1 ⟨"", by simp [plainText, Html.decode, dropEscapes,
      Html.overlong?, Html.unescape, Html.unescapeFrom]⟩
  split
  · simp_all
  · simp_all
  · rename_i raw _ htitle
    simp [htitle, ← exists_plainText_iff]

theorem exists_texts_iff (t : Target) :
    ((∃ url, plainText t.dest = .ok url) ∧ ∃ title, t.titleText = .ok title) ↔ t.IsReadable := by
  rw [exists_plainText_iff, exists_titleText_iff, Target.IsReadable, Target.texts,
    List.forall_mem_cons]

/-! ### Spans -/

/-- The target of a link or an image. -/
def Mark.target? : Mark → Option Target
  | .link target => some target
  | .image target => some target
  | _ => none

variable {mark : Mark} {children : Except Html.Overlong (List Tree)}

/-- The node of a span is there just where its target and, if it has a text, the nodes of that
are. -/
theorem exists_nodeOf_iff (raw : List Char) :
    (∃ node, nodeOf mark raw children = .ok node) ↔
      (∀ target ∈ mark.target?, target.IsReadable) ∧
        (mark.holdsSpans = true → ∃ cs, children = .ok cs) := by
  cases mark with
  | lineBreak hard => cases hard <;> simp [nodeOf, Mark.target?, Mark.holdsSpans]
  | link target =>
      simp only [nodeOf, Mark.target?, Mark.holdsSpans, Option.mem_some_iff, forall_eq',
        forall_const, ← exists_texts_iff, exists_bind_eq_ok_iff, exists_pure_eq_ok, and_true,
        exists_and_right, and_assoc]
  | image target =>
      simp only [nodeOf, Mark.target?, Mark.holdsSpans, Option.mem_some_iff, forall_eq',
        forall_const, ← exists_texts_iff, exists_bind_eq_ok_iff, exists_pure_eq_ok, and_true,
        exists_and_right]
      exact and_comm
  | _ => simp [nodeOf, Mark.target?, Mark.holdsSpans]

/-- The targets that are decoded for the nodes of spans. -/
def targetsAmong (spans : List Span) : List Target :=
  (among Mark.holdsSpans spans).filterMap fun s => s.mark.target?

theorem forall_mem_targetsAmong_iff {p : Target → Prop} (spans : List Span) :
    (∀ target ∈ targetsAmong spans, p target) ↔ ∀ q ∈ settle spans,
      (∀ target ∈ q.1.mark.target?, p target) ∧
        (q.1.mark.holdsSpans = true → ∀ target ∈ targetsAmong q.2, p target) := by
  have hspans (spans : List Span) : (∀ target ∈ targetsAmong spans, p target) ↔
      ∀ s ∈ among Mark.holdsSpans spans, ∀ target ∈ s.mark.target?, p target := by
    simp only [targetsAmong, List.mem_filterMap, forall_exists_index, and_imp, Option.mem_def]
    exact ⟨fun h s hs target htarget => h target s hs htarget,
      fun h target s hs htarget => h s hs target htarget⟩
  rw [hspans, among_eq]
  simp only [hspans, List.mem_flatMap, forall_exists_index, and_imp]
  constructor
  · intro h q hq
    refine ⟨fun target htarget => h q.1 q hq List.mem_cons_self target htarget, ?_⟩
    intro hholds s hs
    exact h s q hq (by simp [hholds, hs])
  · intro h s q hq hs
    obtain ⟨hown, hinner⟩ := h q hq
    rcases List.mem_cons.1 hs with rfl | hs
    · exact hown
    · split at hs
      · rename_i hholds
        exact hinner hholds s hs
      · cases hs

/-- The nodes of a text are there just where every target among its spans can be read. -/
theorem exists_nodesBetween_iff (text : Array Char) {fuel : Nat} (start stop : Nat)
    {spans : List Span} (hfuel : spans.length < fuel) :
    (∃ nodes, nodesBetween text fuel start stop spans = .ok nodes) ↔
      ∀ target ∈ targetsAmong spans, target.IsReadable := by
  induction fuel generalizing start stop spans with
  | zero => omega
  | succ fuel ih =>
      simp only [nodesBetween, exists_bind_eq_ok_iff, exists_pure_eq_ok, and_true]
      rw [exists_mapM_eq_ok_iff, forall_mem_targetsAmong_iff]
      refine forall₂_congr fun q hq => ?_
      have hlt := length_lt_of_mem_settle hq
      have hinner := ih q.1.innerStart q.1.innerStop (by omega : q.2.length < fuel)
      rw [← hinner, ← exists_nodeOf_iff (slice text q.1.start q.1.stop)]
      simp only [spanNode, exists_bind_eq_ok_iff, exists_pure_eq_ok, and_true]

/-! ### Blocks -/

def Block.isPlain : Block → Bool
  | .quote _ => false
  | .list _ => false
  | _ => true

/-- The label and the target that a block defines. -/
def Block.definition? : Block → Option (List Char × Target)
  | .definition d => some (d.label, d.target)
  | _ => none

/-- The text of a block that is read for spans. -/
def Block.body? : Block → Option (List Char)
  | .paragraph body => some body
  | .heading _ body => some body
  | _ => none

mutual

/-- The blocks in a block that hold no others, in document order. -/
def leaves : Block → List Block
  | .quote blocks => leavesAll blocks
  | .list items => leavesItems items
  | b => [b]

def leavesAll : List Block → List Block
  | [] => []
  | b :: rest => leaves b ++ leavesAll rest

def leavesItems : List (List Block) → List Block
  | [] => []
  | item :: rest => leavesAll item ++ leavesItems rest

end

/-- The targets that are decoded for the tree of a block that holds no others. -/
def targetsOf (labels : Labels) (b : Block) : List Target :=
  b.definition?.toList.map (·.2) ++
    b.body?.toList.flatMap fun body => targetsAmong (spans labels body)

theorem exists_nodes_iff (labels : Labels) (body : List Char) :
    (∃ ns, nodes labels body = .ok ns) ↔
      ∀ target ∈ targetsAmong (spans labels body), target.IsReadable :=
  exists_nodesBetween_iff body.toArray 0 body.length (Nat.lt_succ_self _)

theorem exists_definitionNode_iff (d : Definition) :
    (∃ t, definitionNode d = .ok t) ↔ d.target.IsReadable := by
  simp only [definitionNode, ← exists_texts_iff, exists_bind_eq_ok_iff, exists_pure_eq_ok,
    and_true, exists_and_right]

mutual

/-- A block has a tree just where the targets of its leaves can be read. -/
theorem exists_treeOf_iff (labels : Labels) (b : Block) :
    (∃ t, treeOf labels b = .ok t) ↔
      ∀ leaf ∈ leaves b, ∀ target ∈ targetsOf labels leaf, target.IsReadable := by
  match b with
  | .quote blocks =>
      simp only [treeOf, leaves, exists_bind_eq_ok_iff, exists_pure_eq_ok, and_true]
      exact exists_treesOf_iff labels blocks
  | .list items =>
      simp only [treeOf, leaves, exists_bind_eq_ok_iff, exists_pure_eq_ok, and_true]
      exact exists_itemTrees_iff labels items
  | .definition d =>
      simpa [treeOf, leaves, targetsOf, Block.definition?, Block.body?] using
        exists_definitionNode_iff d
  | .paragraph body | .heading _ body =>
      simpa [treeOf, leaves, targetsOf, Block.definition?, Block.body?] using
        exists_nodes_iff labels body
  | .thematicBreak | .code _ | .markup _ =>
      simp [treeOf, leaves, targetsOf, Block.definition?, Block.body?]

theorem exists_treesOf_iff (labels : Labels) (blocks : List Block) :
    (∃ ts, treesOf labels blocks = .ok ts) ↔
      ∀ leaf ∈ leavesAll blocks, ∀ target ∈ targetsOf labels leaf, target.IsReadable := by
  match blocks with
  | [] => simp [treesOf, leavesAll]
  | b :: rest =>
      simp only [treesOf, leavesAll, exists_bind_eq_ok_iff, exists_pure_eq_ok, and_true,
        exists_and_right, List.forall_mem_append]
      rw [exists_treeOf_iff labels b, exists_treesOf_iff labels rest]

theorem exists_itemTrees_iff (labels : Labels) (items : List (List Block)) :
    (∃ ts, itemTrees labels items = .ok ts) ↔
      ∀ leaf ∈ leavesItems items, ∀ target ∈ targetsOf labels leaf, target.IsReadable := by
  match items with
  | [] => simp [itemTrees, leavesItems]
  | item :: rest =>
      simp only [itemTrees, leavesItems, exists_bind_eq_ok_iff, exists_pure_eq_ok, and_true,
        exists_and_right, List.forall_mem_append]
      rw [exists_treesOf_iff labels item, exists_itemTrees_iff labels rest]

end

/-- The targets that are decoded for the tree of a text, in document order. -/
def targets (text : String) : List Target :=
  (leavesAll (blocks text.toList)).flatMap (targetsOf (labelsOfAll [] (blocks text.toList)))

/-- A text has a tree just where no destination or title of it has a number that is too long. -/
theorem exists_parse_iff (text : String) :
    (∃ t, parse text = .ok t) ↔ ∀ target ∈ targets text, target.IsReadable := by
  simp only [parse, exists_bind_eq_ok_iff, exists_pure_eq_ok, and_true]
  rw [exists_treesOf_iff]
  simp only [targets, List.mem_flatMap, forall_exists_index, and_imp]
  exact ⟨fun h target leaf hleaf => h leaf hleaf target,
    fun h leaf hleaf target => h target leaf hleaf⟩

end LinkIndex.Markdown

import LinkIndex.Proofs.Extract.Anchors
import LinkIndex.Proofs.Tree.Edit

/-!
References and their definitions. A reference is as good as a link with the URL of
its definition, and definitions may stand anywhere in a document. Both are facts
about edits: what is extracted of a document depends on its definitions, URLs and
anchors alone, each a list that is read node by node, and the edits in question
keep what the single nodes have of them.
-/

namespace LinkIndex

/-! ### What an extraction depends on -/

namespace Tree

/-- The identifier and the URL of a definition. -/
def ownDefinition : Tree → List (String × String)
  | .leaf (.definition identifier url _ _) => [(identifier, url)]
  | _ => []

variable {t t' : Tree}

/-- The definitions of a document are those of its nodes, put in document order. -/
theorem definitions_eq_ofList (t : Tree) :
    Definitions.ofTree t = Assoc.ofList (t.preorder.flatMap ownDefinition) := by
  have hnote : ∀ (nodes : List Tree) (definitions : Definitions),
      nodes.foldl Definitions.note definitions =
        (nodes.flatMap ownDefinition).foldl (fun m p => m.put p.1 p.2) definitions := by
    intro nodes
    induction nodes with
    | nil => intro definitions; rfl
    | cons n rest ih =>
        intro definitions
        have hown : definitions.note n =
            n.ownDefinition.foldl (fun m p => m.put p.1 p.2) definitions := by
          cases n with
          | element e children => rfl
          | leaf l => cases l <;> rfl
        rw [List.foldl_cons, List.flatMap_cons, List.foldl_append, ← hown, ih]
  rw [Definitions.ofTree, walk_eq_preorder, Assoc.ofList, hnote]

theorem definitions_congr
    (h : t'.preorder.flatMap ownDefinition = t.preorder.flatMap ownDefinition) :
    Definitions.ofTree t' = Definitions.ofTree t := by
  rw [definitions_eq_ofList, definitions_eq_ofList, h]

theorem definedUrl?_congr (h : Definitions.ofTree t' = Definitions.ofTree t) :
    t'.definedUrl? = t.definedUrl? := by
  funext identifier
  rw [← Definitions.get?_ofTree, ← Definitions.get?_ofTree, h]

end Tree

/-- Documents with the same URLs and the same anchors have the same links and
headings. -/
theorem extract_congr {t t' : Tree} (options : Options) (hurls : t'.urls = t.urls)
    (hanchors : t'.anchors = t.anchors) : extract options t' = extract options t := by
  have hkind : ∀ kind, (extract options t').ofKind kind = (extract options t).ofKind kind := by
    intro kind
    rw [ofKind_extract, ofKind_extract, hurls]
  have hheadings : (extract options t').headings = (extract options t).headings := by
    rw [headings_extract, headings_extract, hanchors]
  have hinternal := hkind .internal
  have hexternal := hkind .external
  cases h : extract options t
  cases h' : extract options t'
  simp_all [Links.ofKind]

/-! ### What edits keep -/

namespace Tree

theorem ownUrls_element_congr (url? : String → Option String) (e : Element)
    (children children' : List Tree) :
    ownUrls url? (.element e children) = ownUrls url? (.element e children') := by
  cases e with
  | jsx place name attributes => cases place <;> cases name <;> rfl
  | _ => rfl

def isDefinition : Tree → Bool
  | .leaf (.definition ..) => true
  | _ => false

theorem eq_of_isDefinition {t : Tree} (h : t.isDefinition) :
    ∃ identifier url label title, t = .leaf (.definition identifier url label title) := by
  cases t with
  | element e children => contradiction
  | leaf l =>
      cases l with
      | definition identifier url label title => exact ⟨identifier, url, label, title, rfl⟩
      | _ => contradiction

end Tree

namespace Edit

variable {edit : Edit} {url? : String → Option String} {t u : Tree}

/-- Headings are the only elements whose anchors depend on what stands below them,
and they depend on its text alone. -/
theorem Keeps.ownAnchors_element (h : edit.Keeps fun n => n.ownText.toList)
    (e : Element) (children : List Tree) :
    Tree.ownAnchors (.element e (edit.trees children)) =
      Tree.ownAnchors (.element e children) := by
  cases e with
  | heading depth id =>
      have htext := h.flatten_element (.heading depth id) (.heading depth id) children
      simp only [Tree.ownAnchors, htext]
  | _ => rfl

/-- Elements define nothing, so what is defined is kept with the leaves. -/
theorem keeps_ownDefinition (hleaf : ∀ l, edit.keepsLeaf l = true) :
    edit.Keeps Tree.ownDefinition := by
  refine keeps_of_element (fun l hl => ?_) (fun _ _ => rfl) fun e _ => ?_
  · rw [hleaf l] at hl
    contradiction
  · cases edit.element e <;> rfl

/-- An edit keeps what an extraction reads of single nodes, where the URLs of references are
those that `url?` gives. -/
structure KeepsReading (edit : Edit) (url? : String → Option String) : Prop where
  text : edit.Keeps fun n => n.ownText.toList
  urls : edit.Keeps (Tree.ownUrls url?)
  anchors : edit.Keeps Tree.ownAnchors

/-- Nothing is read of definitions, so they may be left out. Of an element all but the text below
it is its own, so it is enough to compare it with what takes its place above the same children. -/
theorem keepsReading_of_element
    (hleaf : ∀ l, edit.keepsLeaf l = false → (Tree.leaf l).isDefinition)
    (hurls : ∀ e children,
      (edit.element e).elim [] (fun e' => Tree.ownUrls url? (.element e' children)) =
        Tree.ownUrls url? (.element e children))
    (hanchors : ∀ e children,
      (edit.element e).elim [] (fun e' => Tree.ownAnchors (.element e' children)) =
        Tree.ownAnchors (.element e children)) : edit.KeepsReading url? := by
  have hdropped {α : Type} (own : Tree → List α)
      (hown : ∀ identifier url label title,
        own (.leaf (.definition identifier url label title)) = []) :
      ∀ l, edit.keepsLeaf l = false → own (.leaf l) = [] := by
    intro l hl
    obtain ⟨identifier, url, label, title, h⟩ := Tree.eq_of_isDefinition (hleaf l hl)
    rw [h, hown]
  have htext : edit.Keeps fun n => n.ownText.toList := by
    refine keeps_of_element (hdropped (fun n => n.ownText.toList) fun _ _ _ _ => rfl)
      (fun _ _ => rfl) fun e _ => ?_
    cases edit.element e <;> rfl
  have hchildren (e : Element) (children : List Tree) :
      Tree.ownUrls url? (.element e (edit.trees children)) =
        Tree.ownUrls url? (.element e children) := Tree.ownUrls_element_congr url? e _ _
  exact ⟨htext,
    keeps_of_element (hdropped (Tree.ownUrls url?) fun _ _ _ _ => rfl) hchildren hurls,
    keeps_of_element (hdropped Tree.ownAnchors fun _ _ _ _ => rfl) htext.ownAnchors_element
      hanchors⟩

theorem Keeps.definitions_eq (h : edit.Keeps Tree.ownDefinition) (hu : edit.tree t = [u]) :
    Definitions.ofTree u = Definitions.ofTree t :=
  Tree.definitions_congr (h.preorder hu)

/-- What an edit makes of a document has the same headings and links, if the edit keeps what is
defined and what is read by that. -/
theorem KeepsReading.extract_eq (h : edit.KeepsReading t.definedUrl?)
    (hdefinition : edit.Keeps Tree.ownDefinition) (hu : edit.tree t = [u]) (options : Options) :
    extract options u = extract options t := by
  refine extract_congr options ?_ (h.anchors.preorder hu)
  rw [Tree.urls, Tree.urls, Tree.definedUrl?_congr (hdefinition.definitions_eq hu)]
  exact h.urls.preorder hu

end Edit

/-! ### References as links -/

/-- A reference as a link, where a URL is known that is not empty, and as a plain
container where none is. -/
def Element.inlined (url? : String → Option String) (title : String → Option String)
    (kind : String → String) : Element → Element
  | .reference identifier _ _ =>
    match (url? identifier).filter (· ≠ "") with
    | some url => .link url (title identifier)
    | none => .container (kind identifier)
  | e => e

/-- Puts links and containers in the places of all references. What a title says
and what kind a container is of is left open. -/
def Edit.inlining (url? : String → Option String) (title : String → Option String)
    (kind : String → String) : Edit where
  element e := some (e.inlined url? title kind)

/-- A reference has the URL of the link that takes its place, and none where a container does.
Neither it nor what takes its place has an anchor. -/
theorem Edit.inlining_keepsReading (url? : String → Option String)
    (title : String → Option String) (kind : String → String) :
    (inlining url? title kind).KeepsReading url? := by
  refine keepsReading_of_element nofun (fun e children => ?_) fun e children => ?_
  all_goals
    cases e with
    | reference identifier label form =>
        simp only [inlining, Element.inlined, Tree.ownUrls]
        cases (url? identifier).filter (· ≠ "") <;> rfl
    | _ => rfl

/-- The nodes below the root of a document are all that is read of it. -/
theorem Tree.flatMap_preorder_root {α : Type} {own : Tree → List α} (children : List Tree)
    (hown : own (.root children) = []) :
    (root children).preorder.flatMap own = (children.flatMap preorder).flatMap own := by
  rw [root] at hown ⊢
  rw [preorder_element, List.flatMap_cons, hown, List.nil_append]

/-- Resolving references is inlining them. In the place of every reference, at any
depth, may stand a link with the URL that its identifier has in the whole
document, or a plain container if that is empty or there is none: the document has
the same headings and links. -/
theorem extract_inlined (options : Options) (children : List Tree)
    (title : String → Option String) (kind : String → String) :
    let t := Tree.root children
    let inlining := Edit.inlining (Definitions.ofTree t).get? title kind
    extract options (.root (inlining.trees children)) = extract options t := by
  intro t inlining
  have hurl : (Definitions.ofTree t).get? = t.definedUrl? :=
    funext (Definitions.get?_ofTree t)
  have hreading : inlining.KeepsReading (Definitions.ofTree t).get? :=
    Edit.inlining_keepsReading _ title kind
  rw [hurl] at hreading
  exact hreading.extract_eq (Edit.keeps_ownDefinition fun _ => rfl) (Edit.tree_element rfl children)
    options

/-! ### Definitions in other places -/

namespace Tree

/-- The definitions of a document as they stand in it, in document order. -/
def definitionNodes (t : Tree) : List Tree :=
  t.preorder.filter isDefinition

theorem ownDefinition_of_not {t : Tree} (h : ¬t.isDefinition) : t.ownDefinition = [] := by
  cases t with
  | element e children => rfl
  | leaf l =>
      cases l with
      | definition => exact absurd rfl h
      | _ => rfl

/-- All that a document defines it defines by its definitions. -/
theorem flatMap_ownDefinition_definitionNodes (t : Tree) :
    t.definitionNodes.flatMap ownDefinition = t.preorder.flatMap ownDefinition := by
  rw [definitionNodes]
  induction t.preorder with
  | nil => rfl
  | cons n rest ih =>
      by_cases hn : n.isDefinition
      · rw [List.filter_cons_of_pos hn, List.flatMap_cons, List.flatMap_cons, ih]
      · rw [List.filter_cons_of_neg hn, List.flatMap_cons, ownDefinition_of_not hn, ih,
          List.nil_append]

/-- A definition has nothing below it. -/
theorem flatMap_preorder_of_isDefinition {ts : List Tree} (h : ∀ t ∈ ts, t.isDefinition) :
    ts.flatMap preorder = ts := by
  calc ts.flatMap preorder = ts.flatMap fun t => [t] := by
        refine List.flatMap_congr fun t ht => ?_
        obtain ⟨identifier, url, label, title, rfl⟩ := eq_of_isDefinition (h t ht)
        exact preorder_leaf _
    _ = ts := List.flatMap_singleton' ts

/-- What is not read of a definition is not read of several. -/
theorem flatMap_eq_nil_of_isDefinition {α : Type} {own : Tree → List α} {ts : List Tree}
    (hown : ∀ identifier url label title,
      own (.leaf (.definition identifier url label title)) = [])
    (h : ∀ t ∈ ts, t.isDefinition) : ts.flatMap own = [] := by
  rw [List.flatMap_eq_nil_iff]
  intro t ht
  obtain ⟨identifier, url, label, title, rfl⟩ := eq_of_isDefinition (h t ht)
  exact hown identifier url label title

/-- What is read of a document with definitions in front of all else and behind it. -/
theorem flatMap_preorder_between {α : Type} {own : Tree → List α} {before after : List Tree}
    (hbefore : ∀ t ∈ before, t.isDefinition) (hafter : ∀ t ∈ after, t.isDefinition)
    (rest : List Tree) (hroot : ∀ ts, own (.root ts) = []) :
    (root (before ++ rest ++ after)).preorder.flatMap own =
      before.flatMap own ++ (rest.flatMap preorder).flatMap own ++ after.flatMap own := by
  rw [flatMap_preorder_root _ (hroot _)]
  simp only [List.flatMap_append, flatMap_preorder_of_isDefinition hbefore,
    flatMap_preorder_of_isDefinition hafter]

end Tree

/-- Takes the definitions out of a document. -/
def Edit.withoutDefinitions : Edit where
  keepsLeaf l := !(Tree.leaf l).isDefinition

namespace Edit

theorem withoutDefinitions_keepsReading (url? : String → Option String) :
    withoutDefinitions.KeepsReading url? :=
  keepsReading_of_element (fun l hl => by simpa [withoutDefinitions] using hl) (fun _ _ => rfl)
    fun _ _ => rfl

theorem flatMap_ownDefinition_withoutDefinitions (ts : List Tree) :
    ((withoutDefinitions.trees ts).flatMap Tree.preorder).flatMap Tree.ownDefinition = [] := by
  rw [flatMap_preorder_trees, List.flatMap_assoc, List.flatMap_eq_nil_iff]
  intro n _
  cases n with
  | element e children => rfl
  | leaf l => cases l <;> rfl

end Edit

/-- The definitions of a document may be taken out and put in front of all else or
behind it, some here and some there, as long as they stay in order. -/
theorem extract_moved {before after : List Tree} (options : Options) (children : List Tree)
    (hsplit : before ++ after = (Tree.root children).definitionNodes) :
    let moved := Tree.root (before ++ Edit.withoutDefinitions.trees children ++ after)
    Definitions.ofTree moved = Definitions.ofTree (.root children) ∧
      extract options moved = extract options (.root children) := by
  intro moved
  have hmem : ∀ t ∈ before ++ after, t.isDefinition := by
    intro t ht
    rw [hsplit] at ht
    exact (List.mem_filter.1 ht).2
  have hbefore : ∀ t ∈ before, t.isDefinition :=
    fun t ht => hmem t (List.mem_append_left after ht)
  have hafter : ∀ t ∈ after, t.isDefinition :=
    fun t ht => hmem t (List.mem_append_right before ht)
  have hdefinitions : Definitions.ofTree moved = Definitions.ofTree (.root children) := by
    apply Tree.definitions_congr
    rw [Tree.flatMap_preorder_between hbefore hafter _ fun _ => rfl,
      Edit.flatMap_ownDefinition_withoutDefinitions, List.append_nil, ← List.flatMap_append,
      hsplit, Tree.flatMap_ownDefinition_definitionNodes]
  -- what is not read of definitions is read of the rest alone
  have hkept : ∀ {α : Type} {own : Tree → List α}, (∀ ts, own (.root ts) = []) →
      (∀ identifier url label title,
        own (.leaf (.definition identifier url label title)) = []) →
      Edit.withoutDefinitions.Keeps own →
      moved.preorder.flatMap own = (Tree.root children).preorder.flatMap own := by
    intro α own hroot hown hkeeps
    rw [Tree.flatMap_preorder_between hbefore hafter _ hroot,
      Tree.flatMap_eq_nil_of_isDefinition hown hbefore,
      Tree.flatMap_eq_nil_of_isDefinition hown hafter, hkeeps.trees,
      Tree.flatMap_preorder_root _ (hroot _), List.nil_append, List.append_nil]
  have hreading := Edit.withoutDefinitions_keepsReading (Tree.root children).definedUrl?
  refine ⟨hdefinitions, extract_congr options ?_ ?_⟩
  · rw [Tree.urls, Tree.urls, Tree.definedUrl?_congr hdefinitions]
    exact hkept (fun _ => rfl) (fun _ _ _ _ => rfl) hreading.urls
  · exact hkept (fun _ => rfl) (fun _ _ _ _ => rfl) hreading.anchors

/-- Where definitions stand in a document does not matter. Taken out from wherever
they are nested and put, in document order, behind all other children of the root
or in front of them, they define the same, and the headings and links are the same. -/
theorem extract_definitions_anywhere (options : Options) (children : List Tree) :
    let t := Tree.root children
    let rest := Edit.withoutDefinitions.trees children
    let last := Tree.root (rest ++ t.definitionNodes)
    let first := Tree.root (t.definitionNodes ++ rest)
    (Definitions.ofTree last = Definitions.ofTree t ∧ extract options last = extract options t) ∧
      (Definitions.ofTree first = Definitions.ofTree t ∧
        extract options first = extract options t) := by
  intro t rest last first
  have hlast := extract_moved options children (List.nil_append t.definitionNodes)
  have hfirst := extract_moved options children (List.append_nil t.definitionNodes)
  rw [List.nil_append] at hlast
  rw [List.append_nil] at hfirst
  exact ⟨hlast, hfirst⟩

end LinkIndex

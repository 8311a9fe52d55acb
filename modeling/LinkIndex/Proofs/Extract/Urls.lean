import LinkIndex.Extract.Links
import LinkIndex.Proofs.Tree.Preorder
import Mathlib.Data.List.Basic

/-!
The links of a document are the URLs of its nodes, divided by where they point.

The definitions of a document are read before its links are, so a node can be
asked for its URLs on its own: `Tree.ownUrls` needs nothing but the node and
the URL that each identifier has in the whole document. A visit only ever
appends, and to the list of one kind it appends what the node has of that
kind. From this one fact about a step the lists of a whole document follow.
-/

namespace LinkIndex

/-- A fold each of whose steps appends to a list: the fold appends to it what
its steps do, in order. -/
theorem foldl_appends {σ α β : Type} {f : σ → α → σ} (view : σ → List β) {own : α → List β}
    (hstep : ∀ s a, view (f s a) = view s ++ own a) (s : σ) (l : List α) :
    view (l.foldl f s) = view s ++ l.flatMap own := by
  induction l generalizing s with
  | nil => simp
  | cons a rest ih => rw [List.foldl_cons, ih, hstep, List.append_assoc, List.flatMap_cons]

/-! ### Definitions -/

namespace Tree

/-- The URL that a node gives to an identifier, if the node defines it. -/
def urlFor? (identifier : String) : Tree → Option String
  | .leaf (.definition i url _ _) => if i = identifier then some url else none
  | _ => none

/-- The URL of the last definition of an identifier in document order. -/
def definedUrl? (t : Tree) (identifier : String) : Option String :=
  (t.preorder.filterMap (urlFor? identifier)).getLast?

end Tree

theorem Definitions.get?_note (definitions : Definitions) (t : Tree) (identifier : String) :
    (definitions.note t).get? identifier =
      (t.urlFor? identifier).or (definitions.get? identifier) := by
  cases t with
  | element e children => rfl
  | leaf l =>
      cases l with
      | definition i url label title =>
          by_cases hi : i = identifier
          · subst hi
            simp [note, Tree.urlFor?]
          · simp [note, Tree.urlFor?, hi, Assoc.get?_put_of_ne]
      | _ => rfl

theorem Definitions.get?_foldl_note (definitions : Definitions) (nodes : List Tree)
    (identifier : String) :
    (nodes.foldl note definitions).get? identifier =
      (nodes.filterMap (Tree.urlFor? identifier)).getLast?.or
        (definitions.get? identifier) := by
  induction nodes generalizing definitions with
  | nil => rfl
  | cons t rest ih =>
      rw [List.foldl_cons, ih, get?_note, ← Option.or_assoc]
      cases h : t.urlFor? identifier with
      | none => simp [h]
      | some url =>
          rw [List.filterMap_cons_some h, List.getLast?_cons]
          cases (rest.filterMap (Tree.urlFor? identifier)).getLast? <;> rfl

/-- Of several definitions of an identifier the last one counts, wherever in
the tree it stands. -/
theorem Definitions.get?_ofTree (t : Tree) (identifier : String) :
    (ofTree t).get? identifier = t.definedUrl? identifier := by
  rw [ofTree, get?_foldl_note, Tree.walk_eq_preorder, Assoc.get?_nil, Option.or_none]
  rfl

/-! ### The URLs of a node -/

/-- The target of an anchor, if that is what was found. -/
def Html.Target.href? : Html.Target → Option String
  | .href value => some value
  | .id _ => none

namespace Tree

/-- The URLs that a node contributes, its children aside, where `url?` gives
the URL of an identifier. -/
def ownUrls (url? : String → Option String) : Tree → List String
  | .element (.link url _) _ => [url]
  | .element (.reference identifier _ _) _ => ((url? identifier).filter (· ≠ "")).toList
  | .element (.jsx .flow (some name) attributes) _ =>
    if name ∈ linkElements then textAttributes attributes "href" else []
  | .leaf (.html value) => (Html.targets value).filterMap Html.Target.href?
  | _ => []

/-- The URLs of a document, in document order. -/
def urls (t : Tree) : List String :=
  t.preorder.flatMap (ownUrls t.definedUrl?)

end Tree

namespace Links

def ofKind (links : Links) : LinkKind → List String
  | .internal => links.internal
  | .external => links.external

@[simp] theorem ofKind_addHeading (links : Links) (id : String) (kind : LinkKind) :
    (links.addHeading id).ofKind kind = links.ofKind kind := by
  cases kind <;> rfl

@[simp] theorem ofKind_addHeadings (links : Links) (ids : List String) (kind : LinkKind) :
    (links.addHeadings ids).ofKind kind = links.ofKind kind := by
  have hstep : ∀ (links : Links) id, (links.addHeading id).ofKind kind = links.ofKind kind ++ [] :=
    fun links id => by simp
  rw [addHeadings, foldl_appends (ofKind · kind) hstep, List.flatMap_eq_nil_iff.2 (by simp),
    List.append_nil]

theorem ofKind_addLink (links : Links) (url : String) (kind : LinkKind) :
    (links.addLink url).ofKind kind =
      links.ofKind kind ++ [url].filter (classify · = kind) := by
  cases hurl : classify url <;> cases kind <;> simp [addLink, ofKind, hurl]

theorem ofKind_addLinks (links : Links) (urls : List String) (kind : LinkKind) :
    (links.addLinks urls).ofKind kind =
      links.ofKind kind ++ urls.filter (classify · = kind) := by
  rw [addLinks, foldl_appends (ofKind · kind) fun links url => ofKind_addLink links url kind,
    ← List.filter_flatMap, List.flatMap_singleton']

theorem ofKind_addTarget (links : Links) (target : Html.Target) (kind : LinkKind) :
    (addTarget links target).ofKind kind =
      links.ofKind kind ++ target.href?.toList.filter (classify · = kind) := by
  cases target with
  | id value => simp [addTarget, Html.Target.href?]
  | href value => exact ofKind_addLink links value kind

theorem ofKind_addTargets (links : Links) (targets : List Html.Target) (kind : LinkKind) :
    (targets.foldl addTarget links).ofKind kind =
      links.ofKind kind ++
        (targets.filterMap Html.Target.href?).filter (classify · = kind) := by
  rw [foldl_appends (ofKind · kind) fun links target => ofKind_addTarget links target kind,
    ← List.filter_flatMap, ← List.filterMap_eq_flatMap_toList]

end Links

namespace Visit

/-- A heading adds no link, whether or not it is given an anchor. -/
theorem ofKind_heading (v : Visit) (id : Option String) (text : String) (kind : LinkKind) :
    (v.heading id text).links.ofKind kind = v.links.ofKind kind := by
  have hanchor : (heading.anchor text v).links.ofKind kind = v.links.ofKind kind := by
    rw [heading.anchor]
    split
    · rfl
    · split
      · rfl
      · exact Links.ofKind_addHeading ..
  cases id with
  | none => exact hanchor
  | some id =>
      by_cases hid : id = ""
      · simpa [heading, hid] using hanchor
      · simp [heading, hid]

theorem ofKind_reference (v : Visit) (definitions : Definitions) (identifier : String)
    (kind : LinkKind) :
    (v.reference definitions identifier).links.ofKind kind =
      v.links.ofKind kind ++
        ((definitions.get? identifier).filter (· ≠ "")).toList.filter (classify · = kind) := by
  rw [reference]
  cases definitions.get? identifier with
  | none => simp
  | some url =>
      by_cases hurl : url = ""
      · simp [hurl, Option.filter]
      · simpa [hurl, Option.filter] using Links.ofKind_addLink v.links url kind

/-- One step of the walk: to the links of a kind those of the node are
appended, and nothing else happens to them. -/
theorem ofKind_node (definitions : Definitions) (v : Visit) (t : Tree) (kind : LinkKind) :
    (v.node definitions t).links.ofKind kind =
      v.links.ofKind kind ++
        (t.ownUrls definitions.get?).filter (classify · = kind) := by
  cases t with
  | leaf l =>
      cases l with
      | html value => exact Links.ofKind_addTargets ..
      | _ => simp [node, Tree.ownUrls]
  | element e children =>
      cases e with
      | heading depth id => simpa [node, Tree.ownUrls] using ofKind_heading ..
      | link url title => exact Links.ofKind_addLink ..
      | reference identifier label form => exact ofKind_reference ..
      | jsx place name attributes =>
          cases place with
          | text => simp [node, jsx, Tree.ownUrls]
          | flow =>
              cases name with
              | none => simp [node, jsx, Tree.ownUrls]
              | some name =>
                  by_cases hname : name ∈ linkElements
                  · simp [node, jsx, Tree.ownUrls, hname, Links.ofKind_addLinks]
                  · simp [node, jsx, Tree.ownUrls, hname]
      | _ => simp [node, Tree.ownUrls]

theorem ofKind_foldl_node (definitions : Definitions) (v : Visit) (nodes : List Tree)
    (kind : LinkKind) :
    (nodes.foldl (node definitions) v).links.ofKind kind =
      v.links.ofKind kind ++
        (nodes.flatMap (Tree.ownUrls definitions.get?)).filter (classify · = kind) := by
  rw [foldl_appends (·.links.ofKind kind) fun v t => ofKind_node definitions v t kind,
    ← List.filter_flatMap]

end Visit

theorem ofKind_extract (options : Options) (t : Tree) (kind : LinkKind) :
    (extract options t).ofKind kind = t.urls.filter (classify · = kind) := by
  have hurls : (Definitions.ofTree t).get? = t.definedUrl? :=
    funext fun identifier => Definitions.get?_ofTree t identifier
  have hstart : options.newVisit.links.ofKind kind = [] := by
    cases kind <;> rfl
  rw [extract, Visit.ofKind_foldl_node, hstart, hurls, Tree.walk_eq_preorder,
    List.nil_append, Tree.urls]

/-- The URLs of a document are divided between its two lists by where they
point; within each list they stand verbatim and in document order. -/
theorem extract_links (options : Options) (t : Tree) :
    (extract options t).internal = t.urls.filter (classify · = .internal) ∧
      (extract options t).external = t.urls.filter (classify · = .external) :=
  ⟨ofKind_extract options t .internal, ofKind_extract options t .external⟩

end LinkIndex

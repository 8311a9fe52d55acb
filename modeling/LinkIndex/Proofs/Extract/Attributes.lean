import LinkIndex.Proofs.Extract.References
import LinkIndex.Proofs.Tree.Grammar

/-!
What of the attributes of JSX elements is read. Expressions are carried along as texts,
but nothing is taken from them: where two JSON values differ at most in what their
expressions say, one is read as a tree just where the other is, and both have the same
headings and links. Of the trees, only the texts of the attributes `id` and `href` count.

A value is compared with its masked form, in which every expression is a null; a tree
with its reduced form, in which no other attributes are left. That reading forgets the
mask is shown along the recursion of the reader. That extraction forgets the rest is a
fact about an edit.
-/

namespace LinkIndex

/-! ### Attributes that are read -/

/-- Texts by the names that are asked for. -/
def Attribute.isRead : Attribute → Bool
  | .named name (.text _) => name = "id" || name = "href"
  | _ => false

def Element.reduced : Element → Element
  | .jsx place name attributes => .jsx place name (attributes.filter Attribute.isRead)
  | e => e

/-- Leaves out the attributes that are not read. -/
def Edit.reducing : Edit where
  element e := some e.reduced

theorem textAttributes_filter_isRead (attributes : List Attribute) {name : String}
    (hname : name = "id" ∨ name = "href") :
    textAttributes (attributes.filter Attribute.isRead) name = textAttributes attributes name := by
  induction attributes with
  | nil => rfl
  | cons a rest ih =>
      simp only [textAttributes] at ih ⊢
      cases hread : a.isRead with
      | true => rw [List.filter_cons_of_pos hread, List.filterMap_cons, List.filterMap_cons, ih]
      | false =>
          rw [List.filter_cons_of_neg (by simp [hread]), List.filterMap_cons, ih]
          -- an attribute that is not read has another name, or no text
          cases a with
          | spread source => rfl
          | named n value =>
              cases value with
              | text s =>
                  have hother : n ≠ name := by
                    rintro rfl
                    simp [Attribute.isRead] at hread
                    exact hname.elim hread.1 hread.2
                  simp [hother]
              | _ => rfl

namespace Edit

theorem tree_reducing_element (e : Element) (children : List Tree) :
    reducing.tree (.element e children) = [.element e.reduced (reducing.trees children)] :=
  tree_element rfl children

theorem exists_tree_reducing (t : Tree) : ∃ u, reducing.tree t = [u] := by
  cases t with
  | leaf l => exact ⟨.leaf l, by rw [tree]; rfl⟩
  | element e children => exact ⟨_, tree_reducing_element e children⟩

/-- URLs and anchors of JSX elements are in the attributes that are read. -/
theorem reducing_keepsReading (url? : String → Option String) : reducing.KeepsReading url? := by
  refine keepsReading_of_element nofun (fun e children => ?urls) fun e children => ?anchors
  case urls =>
    cases e with
    | jsx place name attributes =>
        cases place <;> cases name <;>
          simp [reducing, Element.reduced, Tree.ownUrls, textAttributes_filter_isRead]
    | _ => rfl
  case anchors =>
    cases e with
    | jsx place name attributes =>
        simp [reducing, Element.reduced, Tree.ownAnchors, textAttributes_filter_isRead]
    | _ => rfl

end Edit

/-- A tree has the headings and links of its reduced form. -/
theorem extract_of_tree_reducing {t u : Tree} (options : Options)
    (hu : Edit.reducing.tree t = [u]) : extract options u = extract options t :=
  (Edit.reducing_keepsReading _).extract_eq (Edit.keeps_ownDefinition fun _ => rfl) hu options

/-- Trees of one reduced form have the same headings and links. -/
theorem extract_eq_of_reducing {t t' : Tree} (options : Options)
    (h : Edit.reducing.tree t = Edit.reducing.tree t') :
    extract options t = extract options t' := by
  obtain ⟨u, hu⟩ := Edit.exists_tree_reducing t
  rw [← extract_of_tree_reducing options hu, extract_of_tree_reducing options (h ▸ hu)]

/-! ### Masked values -/

namespace Tree

/-- Whether an attribute is spread. -/
def isSpread (fields : Fields) : Bool :=
  optionalString fields "type" = some "mdxJsxExpressionAttribute"

/-- An attribute without what its expression says: the value of an attribute that is
spread, or a value that is no text, is a null. -/
def maskedAttribute : Json → Json
  | .obj fields =>
    if isSpread fields ∨ optionalString fields "value" = none then
      .obj (("value", .null) :: Assoc.erase fields "value")
    else .obj fields
  | v => v

mutual

/-- A tree as JSON without what the expressions of attributes say, at any depth. -/
def masked : Json → Json
  | .obj fields => .obj (maskedFields fields)
  | v => v

def maskedFields : List (String × Json) → List (String × Json)
  | [] => []
  | (field, v) :: rest => (field, maskedField field v) :: maskedFields rest

/-- The value of a field, masked where it holds a list of children or of attributes. -/
def maskedField (field : String) : Json → Json
  | .arr items =>
    if field = "children" then .arr (maskedAll items)
    else if field = "attributes" then .arr (items.map maskedAttribute)
    else .arr items
  | v => v

def maskedAll : List Json → List Json
  | [] => []
  | v :: rest => masked v :: maskedAll rest

end

/-! ### Reading masked values -/

variable {kind field : String} {fields : Fields}

theorem get?_maskedFields (fields : Fields) (field : String) :
    Assoc.get? (maskedFields fields) field = (Assoc.get? fields field).map (maskedField field) := by
  induction fields with
  | nil => rfl
  | cons p rest ih =>
      obtain ⟨field', v⟩ := p
      by_cases hfield : field' = field <;> simp [maskedFields, Assoc.get?, hfield, ih]

theorem maskedField_of_ne (hchildren : field ≠ "children") (hattributes : field ≠ "attributes")
    (v : Json) : maskedField field v = v := by
  cases v <;> simp [maskedField, hchildren, hattributes]

theorem get?_maskedFields_of_ne (hchildren : field ≠ "children")
    (hattributes : field ≠ "attributes") :
    Assoc.get? (maskedFields fields) field = Assoc.get? fields field := by
  rw [get?_maskedFields, funext (maskedField_of_ne hchildren hattributes), Option.map_id']

/-- What is told of two attributes alike when they are read: the fault, or what is
read of the attribute. -/
def readOf (v : Json) : Except TreeError (List Attribute) :=
  (readAttribute v).map fun a => [a].filter Attribute.isRead

theorem attributeValue_ne_text (h : optionalString fields "value" = none) (s : String) :
    attributeValue (Assoc.get? fields "value") ≠ .text s := by
  intro hvalue
  rw [optionalString] at h
  split at h
  · cases h
  · rename_i hother
    cases hfield : Assoc.get? fields "value" with
    | none => simp [hfield, attributeValue] at hvalue
    | some v =>
        cases v with
        | str s' => exact hother s' hfield
        | _ => simp [hfield, attributeValue] at hvalue

theorem filter_isRead_of_not_text {name : String} {value : AttributeValue}
    (h : ∀ s, value ≠ .text s) : [Attribute.named name value].filter Attribute.isRead = [] := by
  cases value with
  | text s => exact absurd rfl (h s)
  | _ => rfl

theorem readOf_maskedAttribute (v : Json) : readOf (maskedAttribute v) = readOf v := by
  cases v with
  | obj fields =>
      rw [maskedAttribute]
      split_ifs with h
      · have hget {field : String} (hne : field ≠ "value") :
            optionalString (("value", .null) :: Assoc.erase fields "value") field =
              optionalString fields field := by
          rw [optionalString, Assoc.get?, if_neg (Ne.symm hne),
            Assoc.get?_erase_of_ne _ (Ne.symm hne), optionalString]
        rw [readOf, readOf, readAttribute, readAttribute, hget (by decide), hget (by decide)]
        by_cases hspread : optionalString fields "type" = some "mdxJsxExpressionAttribute"
        · rw [if_pos hspread, if_pos hspread]
          rfl
        · have htext : optionalString fields "value" = none := by
            simpa [isSpread, hspread] using h
          rw [if_neg hspread, if_neg hspread]
          cases optionalString fields "name" with
          | none => rfl
          | some name =>
              simp only [Except.map, filter_isRead_of_not_text (attributeValue_ne_text htext)]
              rfl
      · rfl
  | _ => rfl

theorem readAttributes_cons (v : Json) (rest : List Json) :
    (readAttributes (v :: rest)).map (·.filter Attribute.isRead) =
      (readOf v).bind fun own =>
        ((readAttributes rest).map (·.filter Attribute.isRead)).map (own ++ ·) := by
  rw [readAttributes, readOf]
  cases readAttribute v with
  | error e => rfl
  | ok a =>
      cases readAttributes rest with
      | error e => rfl
      | ok more => simp only [Except.map, Except.bind, ← List.filter_append, List.singleton_append]

theorem readAttributes_masked (items : List Json) :
    (readAttributes (items.map maskedAttribute)).map (·.filter Attribute.isRead) =
      (readAttributes items).map (·.filter Attribute.isRead) := by
  induction items with
  | nil => rfl
  | cons v rest ih =>
      rw [List.map_cons, readAttributes_cons, readAttributes_cons, readOf_maskedAttribute, ih]

theorem attributes_masked (fields : Fields) :
    (attributes (maskedFields fields)).map (·.filter Attribute.isRead) =
      (attributes fields).map (·.filter Attribute.isRead) := by
  rw [attributes, attributes, get?_maskedFields]
  cases Assoc.get? fields "attributes" with
  | none => rfl
  | some v =>
      cases v with
      | arr items => exact readAttributes_masked items
      | _ => rfl

theorem requiredString_masked (hchildren : field ≠ "children")
    (hattributes : field ≠ "attributes") :
    requiredString kind (maskedFields fields) field = requiredString kind fields field := by
  rw [requiredString, get?_maskedFields_of_ne hchildren hattributes, requiredString]

theorem optionalString_masked (hchildren : field ≠ "children")
    (hattributes : field ≠ "attributes") :
    optionalString (maskedFields fields) field = optionalString fields field := by
  rw [optionalString, get?_maskedFields_of_ne hchildren hattributes, optionalString]

theorem headingDepth_masked : headingDepth (maskedFields fields) = headingDepth fields := by
  rw [headingDepth, get?_maskedFields_of_ne (by decide) (by decide), headingDepth]

theorem headingId_masked : headingId (maskedFields fields) = headingId fields := by
  rw [headingId, get?_maskedFields_of_ne (by decide) (by decide), headingId]

theorem has_maskedFields (field : String) :
    Assoc.has (maskedFields fields) field = Assoc.has fields field := by
  rw [Assoc.has, get?_maskedFields, Option.isSome_map, Assoc.has]

def Head.reduced : Head → Head
  | .leaf l => .leaf l
  | .element e => .element e.reduced

theorem jsx_masked (place : JsxPlace) (name : Option String) :
    (match attributes (maskedFields fields) with
      | .error e => Except.error e
      | .ok attributes => .ok (Head.element (.jsx place name attributes))).map Head.reduced =
      (match attributes fields with
        | .error e => Except.error e
        | .ok attributes => .ok (Head.element (.jsx place name attributes))).map Head.reduced := by
  have h := attributes_masked fields
  cases hmasked : attributes (maskedFields fields) <;> cases hread : attributes fields <;>
    simp_all [Except.map, Head.reduced, Element.reduced]

/-- Masked fields make the same head, but for attributes that are not read. -/
theorem head_masked :
    (head kind (maskedFields fields)).map Head.reduced = (head kind fields).map Head.reduced := by
  unfold head
  split
  · rfl
  · rw [headingDepth_masked, headingId_masked]
  · rw [requiredString_masked (by decide) (by decide),
      optionalString_masked (by decide) (by decide)]
  · rw [requiredString_masked (by decide) (by decide),
      optionalString_masked (by decide) (by decide), optionalString_masked (by decide) (by decide)]
  · rw [requiredString_masked (by decide) (by decide),
      requiredString_masked (by decide) (by decide),
      optionalString_masked (by decide) (by decide), optionalString_masked (by decide) (by decide)]
  · rw [requiredString_masked (by decide) (by decide)]
  · rw [optionalString_masked (by decide) (by decide)]
    exact jsx_masked .flow _
  · rw [optionalString_masked (by decide) (by decide)]
    exact jsx_masked .text _
  · rw [requiredString_masked (by decide) (by decide)]
  · rw [requiredString_masked (by decide) (by decide),
      optionalString_masked (by decide) (by decide), optionalString_masked (by decide) (by decide)]
  · rw [has_maskedFields, optionalString_masked (by decide) (by decide)]

/-- A node by its head and, where that asks for them, its children. -/
def nodeOf (head : Except TreeError Head) (children : Except TreeError (List Tree)) :
    Except TreeError Tree :=
  match head with
  | .error e => .error e
  | .ok (.leaf l) => .ok (.leaf l)
  | .ok (.element e) =>
    match children with
    | .error e => .error e
    | .ok children => .ok (.element e children)

theorem ofJson_eq_nodeOf (htype : optionalString fields "type" = some kind) (hkind : kind ≠ "") :
    ofJson (.obj fields) = nodeOf (head kind fields) (childrenOf kind fields) := by
  rw [ofJson, htype]
  simp only [hkind, if_false]
  rfl

theorem nodeOf_congr {r r' : Except TreeError Head} {c c' : Except TreeError (List Tree)}
    (hhead : r.map Head.reduced = r'.map Head.reduced)
    (hchildren : c.map Edit.reducing.trees = c'.map Edit.reducing.trees) :
    (nodeOf r c).map Edit.reducing.tree = (nodeOf r' c').map Edit.reducing.tree := by
  cases r with
  | error e => cases r' <;> simp_all [Except.map, nodeOf]
  | ok h =>
      cases r' with
      | error e' => simp [Except.map] at hhead
      | ok h' =>
          have hreduced : h.reduced = h'.reduced := by simpa [Except.map] using hhead
          cases h <;> cases h' <;> simp only [Head.reduced, reduceCtorEq] at hreduced
          case leaf.leaf => rw [Head.leaf.inj hreduced]; rfl
          case element.element e e' =>
            -- both elements are reduced to one, and so are their children
            have helement := Head.element.inj hreduced
            cases c <;> cases c' <;>
              simp_all [Except.map, nodeOf, Edit.tree_reducing_element]

mutual

/-- A masked value is refused for the same fault, or read as the same tree but for
attributes that are not read. -/
theorem ofJson_masked : ∀ v : Json,
    (ofJson (masked v)).map Edit.reducing.tree = (ofJson v).map Edit.reducing.tree
  | .obj fields => by
      have hmasked : optionalString (maskedFields fields) "type" = optionalString fields "type" :=
        optionalString_masked (by decide) (by decide)
      rw [masked]
      cases htype : optionalString fields "type" with
      | none => rw [ofJson, ofJson, hmasked, htype]
      | some kind =>
          by_cases hkind : kind = ""
          · rw [ofJson, ofJson, hmasked, htype]
            simp only [hkind, if_true]
          · rw [ofJson_eq_nodeOf (hmasked.trans htype) hkind, ofJson_eq_nodeOf htype hkind]
            exact nodeOf_congr head_masked (childrenOf_masked kind fields)
  | .null | .bool _ | .int _ | .real _ | .str _ | .arr _ => rfl

theorem childrenOf_masked (kind : String) : ∀ fields : List (String × Json),
    (childrenOf kind (maskedFields fields)).map Edit.reducing.trees =
      (childrenOf kind fields).map Edit.reducing.trees
  | [] => rfl
  | (field, v) :: rest => by
      rw [maskedFields, childrenOf, childrenOf]
      by_cases hfield : field = "children"
      · rw [if_pos hfield, if_pos hfield, hfield]
        exact childList_masked kind v
      · rw [if_neg hfield, if_neg hfield]
        exact childrenOf_masked kind rest

theorem childList_masked (kind : String) : ∀ v : Json,
    (childList kind (maskedField "children" v)).map Edit.reducing.trees =
      (childList kind v).map Edit.reducing.trees
  | .arr items => ofJsonAll_masked items
  | .null | .bool _ | .int _ | .real _ | .str _ | .obj _ => rfl

theorem ofJsonAll_masked : ∀ items : List Json,
    (ofJsonAll (maskedAll items)).map Edit.reducing.trees =
      (ofJsonAll items).map Edit.reducing.trees
  | [] => rfl
  | v :: rest => by
      have hv := ofJson_masked v
      have hrest := ofJsonAll_masked rest
      rw [maskedAll, ofJsonAll, ofJsonAll]
      cases hread : ofJson v <;> cases hmasked : ofJson (masked v) <;>
        cases hmore : ofJsonAll rest <;> cases hmore' : ofJsonAll (maskedAll rest) <;>
        simp_all [Except.map, Edit.trees]

end

/-- Values of one masked form are read as trees of one reduced form, or refused for one
fault. -/
theorem ofJson_eq_of_masked {v w : Json} (h : masked v = masked w) :
    (ofJson v).map Edit.reducing.tree = (ofJson w).map Edit.reducing.tree := by
  rw [← ofJson_masked v, h, ofJson_masked w]

end Tree

/-- Where two JSON values differ at most in the expressions of attributes, at any number
of places, one is read as a tree just where the other is, and refused for the same
fault; the trees have the same headings and links. Of the attributes of a tree only the
texts by the names `id` and `href` count. -/
theorem extract_of_masked (options : Options) :
    (∀ v w : Json, Tree.masked v = Tree.masked w →
      (Tree.ofJson v).map (extract options) = (Tree.ofJson w).map (extract options)) ∧
    ∀ t t' : Tree, Edit.reducing.tree t = Edit.reducing.tree t' →
      extract options t = extract options t' := by
  have hreduced : ∀ t t' : Tree, Edit.reducing.tree t = Edit.reducing.tree t' →
      extract options t = extract options t' := fun t t' => extract_eq_of_reducing options
  refine ⟨?_, hreduced⟩
  intro v w hmasked
  have hread := Tree.ofJson_eq_of_masked hmasked
  cases hv : Tree.ofJson v with
  | error e => cases hw : Tree.ofJson w <;> simp_all [Except.map]
  | ok t =>
      cases hw : Tree.ofJson w with
      | error e => simp [hv, hw, Except.map] at hread
      | ok t' =>
          simp only [hv, hw, Except.map, Except.ok.injEq] at hread ⊢
          exact hreduced t t' hread

/-- A link element with an expression for its identifier, a spread expression and a
target that is a text. -/
def expressionPage (id spread : Json) : Json :=
  .obj [("type", .str "root"), ("children", .arr [
    .obj [("type", .str "mdxJsxFlowElement"), ("name", .str "a"), ("attributes", .arr [
      .obj [("type", .str "mdxJsxAttribute"), ("name", .str "id"), ("value", id)],
      .obj [("type", .str "mdxJsxExpressionAttribute"), ("value", spread)],
      .obj [("type", .str "mdxJsxAttribute"), ("name", .str "href"), ("value", .str "/x")]])]])]

theorem extract_of_masked_expressionPage :
    let page := expressionPage (.obj [("value", .str "top")]) (.str "...props")
    let other := expressionPage (.arr [.int 1]) (.bool true)
    Tree.masked page = Tree.masked other ∧
      (Tree.ofJson page).map (extract {}) = .ok ⟨[], ["/x"], []⟩ ∧
      (Tree.ofJson other).map (extract {}) = .ok ⟨[], ["/x"], []⟩ := by
  intro page other
  have hmasked : Tree.masked page = Tree.masked other := rfl
  have hpage : (Tree.ofJson page).map (extract {}) = .ok ⟨[], ["/x"], []⟩ := by decide +kernel
  have hother := (extract_of_masked {}).1 page other hmasked
  exact ⟨hmasked, hpage, hother ▸ hpage⟩

end LinkIndex

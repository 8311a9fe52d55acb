import LinkIndex.Proofs.Assoc
import LinkIndex.Tree.OfJson
import Mathlib.Data.List.Basic

/-!
The grammar of trees as JSON values, and that it is what `Tree.ofJson` accepts.

The grammar says of a kind which of its fields are looked at and what each of them
may hold; all other fields are free. The reader goes through the same fields one by
one and stops at the first that it refuses. What a reader of one field accepts is
said by one lemma for each, from these follows what the head of a node accepts, and
from that, along the nesting of the value, what the whole reader does.
-/

namespace LinkIndex

namespace Tree

/-! ### The grammar -/

inductive TextField : Option Json → Prop
  | absent : TextField none
  | null : TextField (some .null)
  | text (s : String) : TextField (some (.str s))

inductive IntegerField : Option Json → Prop
  | absent : IntegerField none
  | integer (n : Int) : IntegerField (some (.int n))

/-- An attribute: an object that is spread or has a name. -/
inductive AttributeForm : Json → Prop
  | spread {fields : Fields}
      (htype : Assoc.get? fields "type" = some (.str "mdxJsxExpressionAttribute")) :
      AttributeForm (.obj fields)
  | named {fields : Fields} {name : String}
      (hname : Assoc.get? fields "name" = some (.str name)) : AttributeForm (.obj fields)

/-- A field that holds a list of attributes, or null, or is not there. -/
inductive AttributesField : Option Json → Prop
  | absent : AttributesField none
  | null : AttributesField (some .null)
  | list {items : List Json} (hitems : ∀ v ∈ items, AttributeForm v) :
      AttributesField (some (.arr items))

/-- The kinds that always take children. -/
def parentKinds : List String :=
  ["root", "heading", "link", "linkReference", "mdxJsxFlowElement", "mdxJsxTextElement"]

/-- The kinds that never take children. -/
def leafKinds : List String :=
  ["definition", "html", "text", "image"]

def jsxKinds : List String :=
  ["mdxJsxFlowElement", "mdxJsxTextElement"]

def textFields : String → List String
  | "link" => ["url"]
  | "linkReference" => ["identifier"]
  | "definition" => ["identifier", "url"]
  | "html" => ["value"]
  | "text" => ["value"]
  | "image" => ["url"]
  | _ => []

/-- Whether the children of a node are read. A kind that is not known takes children
where it has a field for them. -/
def TakesChildren (kind : String) (fields : Fields) : Prop :=
  kind ∈ parentKinds ∨ kind ∉ leafKinds ∧ Assoc.has fields "children"

/-- The fields of a node hold what its kind asks for, its children aside. -/
structure FieldsForm (kind : String) (fields : Fields) : Prop where
  texts : ∀ field ∈ textFields kind, TextField (Assoc.get? fields field)
  depth : kind = "heading" → IntegerField (Assoc.get? fields "depth")
  attributes : kind ∈ jsxKinds → AttributesField (Assoc.get? fields "attributes")

/-- A node names its kind, and its fields hold what that asks for. -/
structure HeadForm (kind : String) (fields : Fields) : Prop extends FieldsForm kind fields where
  typed : Assoc.get? fields "type" = some (.str kind)
  nonempty : kind ≠ ""

inductive WellFormed : Json → Prop
  /-- A node whose children are not read. -/
  | leaf {kind : String} {fields : Fields} (hhead : HeadForm kind fields)
      (hleaf : ¬TakesChildren kind fields) : WellFormed (.obj fields)
  /-- A node whose children are absent, or count as absent. -/
  | childless {kind : String} {fields : Fields} (hhead : HeadForm kind fields)
      (hparent : TakesChildren kind fields)
      (hnone : ∀ v, Assoc.get? fields "children" = some v → v.isFalsy) : WellFormed (.obj fields)
  /-- A node with a list of children. -/
  | parent {kind : String} {fields : Fields} {items : List Json} (hhead : HeadForm kind fields)
      (hparent : TakesChildren kind fields)
      (hitems : Assoc.get? fields "children" = some (.arr items))
      (hall : ∀ v ∈ items, WellFormed v) : WellFormed (.obj fields)

/-! ### What the readers of fields accept -/

variable {kind field : String} {fields : Fields}

theorem requiredString_ok_iff :
    (∃ s, requiredString kind fields field = .ok s) ↔ TextField (Assoc.get? fields field) := by
  rw [requiredString]
  split
  · next h => simpa [h] using TextField.absent
  · next h => simpa [h] using TextField.null
  · next s h => simpa [h] using TextField.text s
  · next v hnull htext h =>
      rw [h]
      refine ⟨by simp, fun hfield => ?_⟩
      cases hfield with
      | null => exact absurd rfl hnull
      | text s => exact absurd rfl (htext s)

theorem headingDepth_ok_iff :
    (∃ n, headingDepth fields = .ok n) ↔ IntegerField (Assoc.get? fields "depth") := by
  rw [headingDepth]
  split
  · next h => simpa [h] using IntegerField.absent
  · next n h => simpa [h] using IntegerField.integer n
  · next v hinteger h =>
      rw [h]
      refine ⟨by simp, fun hfield => ?_⟩
      cases hfield with
      | integer n => exact absurd rfl (hinteger n)

theorem optionalString_eq_some_iff {s : String} :
    optionalString fields field = some s ↔ Assoc.get? fields field = some (.str s) := by
  rw [optionalString]
  split
  · next s' h => simp [h]
  · next h =>
      refine ⟨by simp, fun hs => absurd hs (h s)⟩

theorem readAttribute_ok_iff {v : Json} : (∃ a, readAttribute v = .ok a) ↔ AttributeForm v := by
  cases v with
  | obj fields =>
      rw [readAttribute]
      constructor
      · intro hok
        split at hok
        · next htype => exact .spread (optionalString_eq_some_iff.1 htype)
        · split at hok
          · next name hname => exact .named (optionalString_eq_some_iff.1 hname)
          · simp at hok
      · intro hform
        cases hform with
        | spread htype => simp [optionalString_eq_some_iff.2 htype]
        | named hname =>
            rw [optionalString_eq_some_iff.2 hname]
            split <;> simp
  | _ =>
      refine ⟨by simp [readAttribute], fun hform => ?_⟩
      cases hform

theorem readAttributes_ok_iff {items : List Json} :
    (∃ as, readAttributes items = .ok as) ↔ ∀ v ∈ items, AttributeForm v := by
  induction items with
  | nil => simp [readAttributes]
  | cons v rest ih =>
      rw [List.forall_mem_cons, ← ih, ← readAttribute_ok_iff, readAttributes]
      cases readAttribute v with
      | error e => simp
      | ok a => cases readAttributes rest <;> simp

theorem attributes_ok_iff :
    (∃ as, attributes fields = .ok as) ↔ AttributesField (Assoc.get? fields "attributes") := by
  rw [attributes]
  split
  · next h => simpa [h] using AttributesField.absent
  · next h => simpa [h] using AttributesField.null
  · next items h =>
      rw [h, readAttributes_ok_iff]
      refine ⟨.list, fun hfield => ?_⟩
      cases hfield with
      | list hitems => exact hitems
  · next v hnull hlist h =>
      rw [h]
      refine ⟨by simp, fun hfield => ?_⟩
      cases hfield with
      | null => exact absurd rfl hnull
      | list hitems => exact absurd rfl (hlist _)

/-! ### What the reader of a head accepts -/

theorem fieldsForm_iff :
    FieldsForm kind fields ↔
      (∀ field ∈ textFields kind, ∃ s, requiredString kind fields field = .ok s) ∧
        (kind = "heading" → ∃ n, headingDepth fields = .ok n) ∧
        (kind ∈ jsxKinds → ∃ as, attributes fields = .ok as) := by
  simp only [requiredString_ok_iff, headingDepth_ok_iff, attributes_ok_iff]
  constructor
  · exact fun h => ⟨h.texts, h.depth, h.attributes⟩
  · rintro ⟨htexts, hdepth, hattributes⟩
    exact ⟨htexts, hdepth, hattributes⟩

theorem head_ok_iff : (∃ h, head kind fields = .ok h) ↔ FieldsForm kind fields := by
  rw [fieldsForm_iff]
  unfold head
  -- one case for each kind that is known, in the order of the reader, and one for the rest
  split
  · simp [textFields, jsxKinds]
  · cases headingDepth fields <;> simp [textFields, jsxKinds]
  · cases h : requiredString "link" fields "url" <;> simp [textFields, jsxKinds, h]
  · cases h : requiredString "linkReference" fields "identifier" <;> simp [textFields, jsxKinds, h]
  · cases h : requiredString "definition" fields "identifier" with
    | error e => simp [textFields, jsxKinds, h]
    | ok identifier =>
        cases h' : requiredString "definition" fields "url" <;> simp [textFields, jsxKinds, h, h']
  · cases h : requiredString "html" fields "value" <;> simp [textFields, jsxKinds, h]
  · cases attributes fields <;> simp [textFields, jsxKinds]
  · cases attributes fields <;> simp [textFields, jsxKinds]
  · cases h : requiredString "text" fields "value" <;> simp [textFields, jsxKinds, h]
  · cases h : requiredString "image" fields "url" <;> simp [textFields, jsxKinds, h]
  · next hroot hheading hlink hreference hdefinition hhtml hflow htext hword himage =>
      have hplain : textFields kind = [] := by
        rw [textFields] <;> assumption
      have hdepth : kind ≠ "heading" := hheading
      have hjsx : kind ∉ jsxKinds := by
        simpa [jsxKinds] using ⟨hflow, htext⟩
      split <;> simp [hplain, hdepth, hjsx]

def Head.isElement : Head → Bool
  | .leaf _ => false
  | .element _ => true

theorem isElement_iff_of_head {h : Head} (hok : head kind fields = .ok h) :
    h.isElement ↔ TakesChildren kind fields := by
  unfold head at hok
  -- each branch that ends well knows the kind, and with it whether children are taken
  split at hok <;> repeat' split at hok
  all_goals cases hok
  all_goals simp_all [Head.isElement, TakesChildren, parentKinds, leafKinds]

/-! ### What the reader of a tree accepts -/

theorem ofJsonAll_ok_iff {items : List Json} :
    (∃ ts, ofJsonAll items = .ok ts) ↔ ∀ v ∈ items, ∃ t, ofJson v = .ok t := by
  induction items with
  | nil => simp [ofJsonAll]
  | cons v rest ih =>
      rw [List.forall_mem_cons, ← ih, ofJsonAll]
      cases ofJson v with
      | error e => simp
      | ok t => cases ofJsonAll rest <;> simp

theorem childList_ok_iff {v : Json} :
    (∃ ts, childList kind v = .ok ts) ↔
      v.isFalsy ∨ ∃ items, v = .arr items ∧ ∀ w ∈ items, ∃ t, ofJson w = .ok t := by
  cases v with
  | arr items =>
      rw [childList, ofJsonAll_ok_iff]
      constructor
      · exact fun hall => .inr ⟨items, rfl, hall⟩
      · rintro (hfalsy | ⟨items', hitems, hall⟩)
        · simp_all [Json.isFalsy]
        · cases hitems
          exact hall
  | _ =>
      simp only [childList]
      split <;> simp_all

theorem childrenOf_ok_iff :
    (∃ ts, childrenOf kind fields = .ok ts) ↔
      ∀ v, Assoc.get? fields "children" = some v → ∃ ts, childList kind v = .ok ts := by
  induction fields with
  | nil => simp [childrenOf]
  | cons p rest ih =>
      by_cases hp : p.1 = "children"
      · simp [childrenOf, Assoc.get?, hp]
      · simp [childrenOf, Assoc.get?, hp, ih]

/-- A node is read where its head is, and its children are if it takes any. -/
theorem ofJson_obj_ok_iff :
    (∃ t, ofJson (.obj fields) = .ok t) ↔
      ∃ kind, HeadForm kind fields ∧
        (TakesChildren kind fields → ∃ ts, childrenOf kind fields = .ok ts) := by
  constructor
  · rintro ⟨t, ht⟩
    rw [ofJson] at ht
    cases htype : optionalString fields "type" with
    | none => simp [htype] at ht
    | some kind =>
        by_cases hkind : kind = ""
        · simp [htype, hkind] at ht
        · cases hhead : head kind fields with
          | error e => simp [htype, hkind, hhead] at ht
          | ok h =>
              have hfields := head_ok_iff.1 ⟨h, hhead⟩
              refine ⟨kind, ⟨hfields, optionalString_eq_some_iff.1 htype, hkind⟩, ?_⟩
              intro hparent
              cases h with
              | leaf l => exact absurd ((isElement_iff_of_head hhead).2 hparent) Bool.false_ne_true
              | element e =>
                  cases hchildren : childrenOf kind fields with
                  | error e' => simp [htype, hkind, hhead, hchildren] at ht
                  | ok ts => exact ⟨ts, rfl⟩
  · rintro ⟨kind, ⟨hfields, htype, hkind⟩, hchildren⟩
    obtain ⟨h, hhead⟩ := head_ok_iff.2 hfields
    have helement := isElement_iff_of_head hhead
    rw [ofJson, optionalString_eq_some_iff.2 htype]
    cases h with
    | leaf l => exact ⟨.leaf l, by simp [hkind, hhead]⟩
    | element e =>
        obtain ⟨ts, hts⟩ := hchildren (helement.1 rfl)
        exact ⟨.element e ts, by simp [hkind, hhead, hts]⟩

/-- An item of a list in a field is smaller than the object. -/
theorem sizeOf_item_lt {items : List Json} {v : Json}
    (hitems : Assoc.get? fields field = some (.arr items)) (hv : v ∈ items) :
    sizeOf v < sizeOf (Json.obj fields) := by
  have hfield := List.sizeOf_lt_of_mem (Assoc.mem_of_get? hitems)
  have hitem := List.sizeOf_lt_of_mem hv
  simp only [Prod.mk.sizeOf_spec, Json.arr.sizeOf_spec, Json.obj.sizeOf_spec] at *
  omega

/-- What is read stands for a tree. The recursion is on the items of the list of
children, which are smaller than the node. -/
theorem wellFormed_of_ok {v : Json} (h : ∃ t, ofJson v = .ok t) : WellFormed v := by
  match v with
  | .obj fields =>
      obtain ⟨kind, hhead, hchildren⟩ := ofJson_obj_ok_iff.1 h
      by_cases hparent : TakesChildren kind fields
      · have hlist := childrenOf_ok_iff.1 (hchildren hparent)
        cases hfield : Assoc.get? fields "children" with
        | none => exact .childless hhead hparent (by simp [hfield])
        | some w =>
            rcases childList_ok_iff.1 (hlist w hfield) with hfalsy | ⟨items, rfl, hall⟩
            · exact .childless hhead hparent (by simpa [hfield] using hfalsy)
            · exact .parent hhead hparent hfield fun item hitem =>
                wellFormed_of_ok (hall item hitem)
      · exact .leaf hhead hparent
  | .null | .bool _ | .int _ | .real _ | .str _ | .arr _ => simp [ofJson] at h
termination_by v
decreasing_by exact sizeOf_item_lt hfield hitem

/-- What stands for a tree is read. -/
theorem WellFormed.ok {v : Json} (h : WellFormed v) : ∃ t, ofJson v = .ok t := by
  induction h with
  | leaf hhead hleaf =>
      exact ofJson_obj_ok_iff.2 ⟨_, hhead, fun hparent => absurd hparent hleaf⟩
  | childless hhead hparent hnone =>
      refine ofJson_obj_ok_iff.2 ⟨_, hhead, fun _ => childrenOf_ok_iff.2 fun v hv => ?_⟩
      exact childList_ok_iff.2 (.inl (hnone v hv))
  | parent hhead hparent hitems hall ih =>
      refine ofJson_obj_ok_iff.2 ⟨_, hhead, fun _ => childrenOf_ok_iff.2 fun v hv => ?_⟩
      obtain rfl := Option.some.inj (hitems.symm.trans hv)
      exact childList_ok_iff.2 (.inr ⟨_, rfl, ih⟩)

/-- A JSON value is read as a tree just where it is well formed. Any other value is
refused, for one of the causes that a tree can be refused for. -/
theorem ofJson_accepts (v : Json) :
    ((∃ t, ofJson v = .ok t) ↔ WellFormed v) ∧
      ((∃ e : TreeError, ofJson v = .error e) ↔ ¬WellFormed v) := by
  have haccepts : (∃ t, ofJson v = .ok t) ↔ WellFormed v := ⟨wellFormed_of_ok, WellFormed.ok⟩
  refine ⟨haccepts, ?_⟩
  rw [← haccepts]
  cases ofJson v <;> simp

end Tree

end LinkIndex

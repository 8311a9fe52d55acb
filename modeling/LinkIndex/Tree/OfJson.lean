import LinkIndex.Json.Printer
import LinkIndex.Tree.Basic

/-!
Trees as JSON values. `Tree.ofJson` reads a value in the form that tools write:
an object with a `type`, the fields of that type, and `children`. What it refuses
it refuses for one of the causes of `TreeError`.
-/

namespace LinkIndex

inductive TreeError
  | notAnObject (found : String)
  | missingType
  | childrenNotAList (kind : String)
  | fieldNotAString (kind field : String)
  | depthNotAnInteger
  | attributesNotAList
  | attributeNotAnObject (found : String)
  | attributeWithoutName
  deriving DecidableEq, Repr

def TreeError.message : TreeError → String
  | .notAnObject found => "mdast node must be an object, got " ++ found
  | .missingType => "mdast node is missing its 'type'"
  | .childrenNotAList kind => "mdast " ++ quoted kind ++ " children must be a list"
  | .fieldNotAString kind field =>
    "mdast " ++ quoted kind ++ " field " ++ quoted field ++ " must be a string"
  | .depthNotAnInteger => "mdast heading depth must be an integer"
  | .attributesNotAList => "mdast JSX attributes must be a list"
  | .attributeNotAnObject found => "mdast JSX attribute must be an object, got " ++ found
  | .attributeWithoutName => "mdast JSX attribute is missing its 'name'"

/-- The short name of the form of a JSON value, as messages give it. -/
def Json.formName : Json → String
  | .null => "NoneType"
  | .bool _ => "bool"
  | .int _ => "int"
  | .real _ => "float"
  | .str _ => "str"
  | .arr _ => "list"
  | .obj _ => "dict"

namespace Tree

abbrev Fields := List (String × Json)

/-- A field that must hold a string; where it is absent or null, the empty one. -/
def requiredString (kind : String) (fields : Fields) (field : String) : Except TreeError String :=
  match Assoc.get? fields field with
  | none => .ok ""
  | some .null => .ok ""
  | some (.str s) => .ok s
  | some _ => .error (.fieldNotAString kind field)

/-- A field that counts only where it holds a string. -/
def optionalString (fields : Fields) (field : String) : Option String :=
  match Assoc.get? fields field with
  | some (.str s) => some s
  | _ => none

/-- The depth of a heading: an integer, one where none is given. -/
def headingDepth (fields : Fields) : Except TreeError Int :=
  match Assoc.get? fields "depth" with
  | none => .ok 1
  | some (.int n) => .ok n
  | some _ => .error .depthNotAnInteger

/-- The identifier that the rendered heading carries: `data.hProperties.id`, as text, unless
it counts as absent. -/
def headingId (fields : Fields) : Option String :=
  match ((Assoc.get? fields "data").bind (·.get? "hProperties")).bind (·.get? "id") with
  | none => none
  | some v => if v.isFalsy then none else some v.display

/-- The source of an expression: the text of its value, empty where that counts as absent. -/
def expressionSource (value : Option Json) : String :=
  match value with
  | none => ""
  | some v => if v.isFalsy then "" else v.display

/-- The value of a named attribute. Values that are not text are kept as expressions. -/
def attributeValue : Option Json → AttributeValue
  | none => .absent
  | some .null => .absent
  | some (.str s) => .text s
  | some (.obj members) => .expression (expressionSource (Assoc.get? members "value"))
  | some v => .expression v.inline

def readAttribute : Json → Except TreeError Attribute
  | .obj fields =>
    if optionalString fields "type" = some "mdxJsxExpressionAttribute" then
      .ok (.spread (expressionSource (Assoc.get? fields "value")))
    else match optionalString fields "name" with
      | some name => .ok (.named name (attributeValue (Assoc.get? fields "value")))
      | none => .error .attributeWithoutName
  | v => .error (.attributeNotAnObject v.formName)

def readAttributes : List Json → Except TreeError (List Attribute)
  | [] => .ok []
  | v :: rest =>
    match readAttribute v with
    | .error e => .error e
    | .ok a =>
      match readAttributes rest with
      | .error e => .error e
      | .ok more => .ok (a :: more)

/-- Reads the attributes of a JSX element. -/
def attributes (fields : Fields) : Except TreeError (List Attribute) :=
  match Assoc.get? fields "attributes" with
  | none => .ok []
  | some .null => .ok []
  | some (.arr items) => readAttributes items
  | some _ => .error .attributesNotAList

/-- What is known of a node before its children are read: it is a leaf, or an element that
takes children. -/
inductive Head
  | leaf (leaf : Leaf)
  | element (element : Element)

/-- Reads the fields of a node of a given kind, all but its children. -/
def head (kind : String) (fields : Fields) : Except TreeError Head :=
  match kind with
  | "root" => .ok (.element .root)
  | "heading" =>
    match headingDepth fields with
    | .error e => .error e
    | .ok depth => .ok (.element (.heading depth (headingId fields)))
  | "link" =>
    match requiredString kind fields "url" with
    | .error e => .error e
    | .ok url => .ok (.element (.link url (optionalString fields "title")))
  | "linkReference" =>
    match requiredString kind fields "identifier" with
    | .error e => .error e
    | .ok identifier =>
      let form := match optionalString fields "referenceType" with
        | some "" => "full"
        | some form => form
        | none => "full"
      .ok (.element (.reference identifier (optionalString fields "label") form))
  | "definition" =>
    match requiredString kind fields "identifier" with
    | .error e => .error e
    | .ok identifier =>
      match requiredString kind fields "url" with
      | .error e => .error e
      | .ok url =>
        .ok (.leaf (.definition identifier url (optionalString fields "label")
          (optionalString fields "title")))
  | "html" =>
    match requiredString kind fields "value" with
    | .error e => .error e
    | .ok value => .ok (.leaf (.html value))
  | "mdxJsxFlowElement" =>
    match attributes fields with
    | .error e => .error e
    | .ok attributes => .ok (.element (.jsx .flow (optionalString fields "name") attributes))
  | "mdxJsxTextElement" =>
    match attributes fields with
    | .error e => .error e
    | .ok attributes => .ok (.element (.jsx .text (optionalString fields "name") attributes))
  | "text" =>
    match requiredString kind fields "value" with
    | .error e => .error e
    | .ok value => .ok (.leaf (.text value))
  | "image" =>
    match requiredString kind fields "url" with
    | .error e => .error e
    | .ok url =>
      .ok (.leaf (.image url (optionalString fields "alt") (optionalString fields "title")))
  | kind =>
    if Assoc.has fields "children" then .ok (.element (.container kind))
    else .ok (.leaf (.literal kind ((optionalString fields "value").getD "")))

mutual

def ofJson : Json → Except TreeError Tree
  | .obj fields =>
    match optionalString fields "type" with
    | none => .error .missingType
    | some kind =>
      if kind = "" then .error .missingType
      else match head kind fields with
        | .error e => .error e
        | .ok (.leaf l) => .ok (.leaf l)
        | .ok (.element e) =>
          match childrenOf kind fields with
          | .error e => .error e
          | .ok children => .ok (.element e children)
  | v => .error (.notAnObject v.formName)

/-- Reads the children of a node from its fields. A field that counts as absent holds none. -/
def childrenOf (kind : String) : List (String × Json) → Except TreeError (List Tree)
  | [] => .ok []
  | (field, v) :: rest => if field = "children" then childList kind v else childrenOf kind rest

/-- Reads the value of the field of children. -/
def childList (kind : String) : Json → Except TreeError (List Tree)
  | .arr items => ofJsonAll items
  | v => if v.isFalsy then .ok [] else .error (.childrenNotAList kind)

def ofJsonAll : List Json → Except TreeError (List Tree)
  | [] => .ok []
  | v :: rest =>
    match ofJson v with
    | .error e => .error e
    | .ok t =>
      match ofJsonAll rest with
      | .error e => .error e
      | .ok ts => .ok (t :: ts)

end

end Tree

end LinkIndex

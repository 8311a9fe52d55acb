import LinkIndex.Assoc
import LinkIndex.Yaml.Error
import LinkIndex.Yaml.Token.Lexer

/-!
YAML text as a tree of texts, lists and maps, before anything is known of what
the texts denote. Anchors and aliases are gone: an alias is the node it names.
-/

namespace LinkIndex.Yaml

/-- The beginning that the handle `!!` stands for. -/
def corePrefix : String := "tag:yaml.org,2002:"

/-- What a text can denote, or a tag ask for. -/
inductive Kind
  | null
  | bool
  | int
  | real
  | timestamp
  | merge
  | defaultValue
  | str
  | binary
  | seq
  | map
  | set
  | orderedMap
  | pairs
  | unknown
  deriving DecidableEq, Repr

/-- The kinds that the handle of the language names. -/
def handledKinds : List (String × Kind) :=
  [("null", .null), ("bool", .bool), ("int", .int), ("float", .real), ("timestamp", .timestamp),
   ("str", .str), ("binary", .binary), ("seq", .seq), ("map", .map), ("set", .set),
   ("omap", .orderedMap), ("pairs", .pairs)]

def coreKinds : List (String × Kind) :=
  handledKinds ++ [("merge", .merge), ("value", .defaultValue)]

/-- A tag: the full name, and whether it was written by a handle. -/
structure Tag where
  name : String
  byHandle : Bool
  deriving DecidableEq, Repr

def Tag.kind (tag : Tag) : Kind :=
  match Text.dropPrefix? corePrefix.toList tag.name.toList with
  | some rest => (coreKinds.lookup (String.ofList rest)).getD .unknown
  | none => .unknown

inductive Node
  | scalar (tag : Option Tag) (plain anchored : Bool) (text : String)
  | sequence (tag : Option Tag) (items : List Node)
  | mapping (tag : Option Tag) (pairs : List (Node × Node))
  /-- The list or the map around, by an alias inside of its own anchor. -/
  | around (isMap : Bool)
  deriving Repr

namespace Node

instance : Inhabited Node := ⟨.sequence none []⟩

/-- What a reader of tokens knows: the tokens to come, the nodes by their anchors, what the handles
of tags stand for, and the version. -/
structure Context where
  tokens : List Token
  anchors : Assoc String Node := []
  handles : Assoc String String := [("!", "!"), ("!!", corePrefix)]
  version : Version

abbrev Reading := StateT Context (Except Error)

namespace Reading

def refuse {α : Type} : Reading α :=
  throw .malformed

def peek : Reading (Option Token) := do
  match (← get).tokens.head? with
  | some (.refused e) => throw e
  | t => return t

def advance : Reading Unit :=
  modify fun ctx => { ctx with tokens := ctx.tokens.tail }

/-- Whether one of these tokens comes next; the end of the text counts as the end of a block. -/
def comes (ts : List Token) : Reading Bool := do
  match ← peek with
  | some t => return ts.contains t
  | none => return false

def expect (t : Token) : Reading Unit := do
  if ← comes [t] then advance else refuse

def aliasNode (name : String) : Reading Node := do
  match (← get).anchors.get? name with
  | some node => return node
  | none => refuse

/-- An anchored list or map begins: what the anchor named before is forgotten. -/
def beginAnchor (anchor : Option String) (isMap : Bool) : Reading Unit :=
  match anchor with
  | some name => modify fun ctx => { ctx with anchors := ctx.anchors.put name (.around isMap) }
  | none => pure ()

/-- An anchored list or map has been read. It is named, unless a node inside of it took the name. -/
def endAnchor (anchor : Option String) (node : Node) : Reading Unit :=
  match anchor with
  | some name => modify fun ctx =>
    match ctx.anchors.get? name with
    | some (.around _) => { ctx with anchors := ctx.anchors.put name node }
    | _ => ctx
  | none => pure ()

/-- The full tag. A mark alone is no tag of its own. Handles are left as they are written, but in
front of the kinds of the language. -/
def resolveTag (tag : WrittenTag) : Reading (Option Tag) := do
  match tag.handle with
  | none => return if tag.suffix = "!" then none else some ⟨tag.suffix, false⟩
  | some handle =>
    match (← get).handles.get? handle with
    | some start =>
      let handled := handle = "!!" && (handledKinds.lookup tag.suffix).isSome
      return some ⟨(if handled then start else handle) ++ tag.suffix, true⟩
    | none => refuse

structure Properties where
  anchor : Option String := none
  tag : Option Tag := none
  /-- Whether a mark alone stands in place of a tag. -/
  marked : Bool := false

def tagProperty (p : Properties) (tag : WrittenTag) : Reading Properties := do
  advance
  return { p with tag := ← resolveTag tag, marked := tag = ⟨none, "!"⟩ }

def anchorProperty (p : Properties) (name : String) : Reading Properties := do
  advance
  return { p with anchor := some name }

/-- At most one anchor and one tag, in either order. -/
def properties : Reading Properties := do
  match ← peek with
  | some (.anchor name) =>
    let p ← anchorProperty {} name
    match ← peek with
    | some (.tag tag) => tagProperty p tag
    | _ => return p
  | some (.tag tag) =>
    let p ← tagProperty {} tag
    match ← peek with
    | some (.anchor name) => anchorProperty p name
    | _ => return p
  | _ => return {}

/-- The node of a text. Its form says what it denotes only in a version that is known. -/
def scalarNode (p : Properties) (plain : Bool) (text : String) : Reading Node := do
  let plain := plain || p.marked
  if plain ∧ p.tag.isNone then
    if let .other minor := (← get).version then throw (.unknownVersion minor)
  let node := Node.scalar p.tag plain p.anchor.isSome text
  if let some name := p.anchor then
    modify fun ctx => { ctx with anchors := ctx.anchors.put name node }
  return node

def sequenceNode (p : Properties) (items : Reading (List Node)) : Reading Node := do
  beginAnchor p.anchor false
  let node := Node.sequence p.tag (← items)
  endAnchor p.anchor node
  return node

def mappingNode (p : Properties) (pairs : Reading (List (Node × Node))) : Reading Node := do
  beginAnchor p.anchor true
  let node := Node.mapping p.tag (← pairs)
  endAnchor p.anchor node
  return node

/-- A text that is left out. -/
def empty : Reading Node :=
  scalarNode {} true ""

end Reading

open Reading

inductive Place
  | block
  /-- In a block where entries of a list need no indentation of their own. -/
  | blockValue
  | flow
  deriving DecidableEq, Repr

mutual

/-- Reads a node. Every step down takes one unit of fuel. -/
def read : Nat → Place → Reading Node
  | 0, _ => refuse
  | fuel + 1, place => do
    match ← peek with
    | some (.aliasTo name) =>
      advance
      aliasNode name
    | _ => content fuel place (← properties)

/-- Reads what stands behind the properties of a node. -/
def content : Nat → Place → Properties → Reading Node
  | 0, _, _ => refuse
  | fuel + 1, place, p => do
    let inBlock := place ≠ .flow
    match ← peek with
    | some (.scalar plain text) =>
      advance
      scalarNode p plain text
    | some .flowSequenceStart =>
      advance
      sequenceNode p (flowItems fuel true)
    | some .flowMappingStart =>
      advance
      mappingNode p (flowPairs fuel true)
    | t =>
      if t = some .blockEntry ∧ place = .blockValue then
        sequenceNode p (plainEntries fuel)
      else if t = some .blockSequenceStart ∧ inBlock then
        advance
        sequenceNode p (blockEntries fuel)
      else if t = some .blockMappingStart ∧ inBlock then
        advance
        mappingNode p (blockPairs fuel)
      else if p.anchor.isSome || p.tag.isSome || p.marked then
        scalarNode p true ""
      else refuse

/-- Reads a node, or none where one of `ends` comes. -/
def readUnless : Nat → Place → List Token → Reading Node
  | 0, _, _ => refuse
  | fuel + 1, place, ends => do
    if ← comes ends then empty else read fuel place

def blockEntries : Nat → Reading (List Node)
  | 0 => refuse
  | fuel + 1 => do
    if ← comes [.blockEntry] then
      advance
      let item ← readUnless fuel .block [.blockEntry, .blockEnd]
      return item :: (← blockEntries fuel)
    else
      expect .blockEnd
      return []

/-- The entries of a list that has no indentation of its own. -/
def plainEntries : Nat → Reading (List Node)
  | 0 => refuse
  | fuel + 1 => do
    if ← comes [.blockEntry] then
      advance
      let item ← readUnless fuel .block [.blockEntry, .key, .value, .blockEnd]
      return item :: (← plainEntries fuel)
    else return []

def blockValue : Nat → Reading Node
  | 0 => refuse
  | fuel + 1 => do
    if ← comes [.value] then
      advance
      readUnless fuel .blockValue [.key, .value, .blockEnd]
    else empty

def blockPairs : Nat → Reading (List (Node × Node))
  | 0 => refuse
  | fuel + 1 => do
    if ← comes [.key] then
      advance
      let key ← readUnless fuel .blockValue [.key, .value, .blockEnd]
      let value ← blockValue fuel
      return (key, value) :: (← blockPairs fuel)
    else if (← comes [.value]) && (← get).version ≠ .v1_1 then
      let key ← empty
      let value ← blockValue fuel
      return (key, value) :: (← blockPairs fuel)
    else
      expect .blockEnd
      return []

/-- The value behind a colon inside of brackets, or none. -/
def flowValue : Nat → Token → Reading Node
  | 0, _ => refuse
  | fuel + 1, close => do
    if ← comes [.value] then
      advance
      readUnless fuel .flow [.flowEntry, close]
    else empty

/-- The items of a list in brackets, up to the closing one. A pair is a map of its own. -/
def flowItems : Nat → Bool → Reading (List Node)
  | 0, _ => refuse
  | fuel + 1, first => do
    let close := Token.flowSequenceEnd
    if ← comes [close] then
      advance
      return []
    else
      if !first then expect .flowEntry
      if ← comes [.key] then
        advance
        let key ← readUnless fuel .flow [.value, .flowEntry, close]
        let value ← flowValue fuel close
        return .mapping none [(key, value)] :: (← flowItems fuel false)
      else if ← comes [close] then
        advance
        return []
      else
        let item ← read fuel .flow
        return item :: (← flowItems fuel false)

/-- The pairs of a map in brackets, up to the closing one. -/
def flowPairs : Nat → Bool → Reading (List (Node × Node))
  | 0, _ => refuse
  | fuel + 1, first => do
    let close := Token.flowMappingEnd
    if ← comes [close] then
      advance
      return []
    else
      if !first then expect .flowEntry
      if ← comes [.key] then
        advance
        let key ← readUnless fuel .flow [.value, .flowEntry, close]
        let value ← flowValue fuel close
        return (key, value) :: (← flowPairs fuel false)
      else if (← comes [.value]) && (← get).version ≠ .v1_1 then
        let key ← empty
        let value ← flowValue fuel close
        return (key, value) :: (← flowPairs fuel false)
      else if ← comes [close] then
        advance
        return []
      else
        let key ← read fuel .flow
        return (key, ← empty) :: (← flowPairs fuel false)

end

/-- Whether a directive stands in front of what follows. -/
def directives : Nat → Bool → Reading Unit
  | 0, _ => refuse
  | fuel + 1, sawVersion => do
    match ← peek with
    | some (.version major _) =>
      if sawVersion || major ≠ 1 then refuse
      advance
      directives fuel true
    | some (.tagHandle handle start) =>
      advance
      modify fun ctx => { ctx with handles := ctx.handles.put handle start }
      directives fuel sawVersion
    | some .otherDirective =>
      advance
      directives fuel sawVersion
    | _ => pure ()

/-- Passes over the mark that ends a document; the older version takes any number of them. -/
def documentEnd : Nat → Reading Unit
  | 0 => refuse
  | fuel + 1 => do
    if ← comes [.documentEnd] then
      advance
      if (← get).version = .v1_1 then documentEnd fuel

/-- Reads the only document of a text; none where the text holds none. -/
def document (fuel : Nat) : Reading (Option Node) := do
  let before := (← get).tokens.length
  if (← peek).isNone then return none
  directives fuel false
  let directed := (← get).tokens.length < before
  let node ←
    if ← comes [.documentStart] then
      advance
      if (← peek).isNone || (← comes [.documentEnd, .documentStart]) then empty
      else read fuel .block
    else if directed then refuse
    else read fuel .block
  documentEnd fuel
  if (← peek).isNone then return some node else refuse

end Node

/-- The node of a text, and the version of the language that it names. -/
def node? (text : List Char) : Except Error (Option Node × Version) :=
  let (tokens, version) := tokens text
  match (Node.document (8 * tokens.length + 8)).run { tokens, version } with
  | .error e => .error e
  | .ok (node, _) => .ok (node, version)

end LinkIndex.Yaml

import LinkIndex.Yaml.Node
import LinkIndex.Yaml.Number
import LinkIndex.Yaml.Value

/-!
What the nodes of YAML text denote. A text without a tag denotes what its form
says; a tag says what a node has to be. The maps named by a key `<<` are merged
into the map around it: their pairs come behind its own, and none of its own is
replaced.
-/

namespace LinkIndex.Yaml

def boolWords : List String :=
  ["true", "True", "TRUE", "false", "False", "FALSE"]

/-- The truth values of the older version. -/
def oldBoolWords : List String :=
  ["y", "Y", "yes", "Yes", "YES", "n", "N", "no", "No", "NO", "on", "On", "ON", "off", "Off",
   "OFF"]

def nullWords : List String :=
  ["", "~", "null", "Null", "NULL"]

def plainKind (version : Version) (text : String) : Kind :=
  let cs := text.toList
  if boolWords.contains text || (version = .v1_1 && oldBoolWords.contains text) then .bool
  else if hasRealForm version cs then .real
  else if hasIntForm version cs then .int
  else if text = "<<" then .merge
  else if nullWords.contains text then .null
  else if (TimeText.read cs).any TimeText.isImplicit then .timestamp
  else if text = "=" then .defaultValue
  else .str

def boolValue? (text : String) : Option Bool :=
  let word := String.ofList (lowercase text.toList)
  [("yes", true), ("no", false), ("y", true), ("n", false), ("true", true), ("false", false),
   ("on", true), ("off", false)].lookup word

def base64Value? (c : Char) : Option Nat :=
  if 'A' ≤ c ∧ c ≤ 'Z' then some (c.toNat - 0x41)
  else if 'a' ≤ c ∧ c ≤ 'z' then some (c.toNat - 0x61 + 26)
  else if '0' ≤ c ∧ c ≤ '9' then some (c.toNat - 0x30 + 52)
  else if c = '+' then some 62
  else if c = '/' then some 63
  else none

/-- Decodes base 64. `count` digits of the group at hand were read, `left` are the bits of the
last one that are not used up, and `pads` counts the signs that fill the group up. Other
characters are passed over. -/
def base64From (count left pads : Nat) : List Char → Option (List UInt8)
  | [] => if count = 0 then some [] else none
  | c :: rest =>
    if c = '=' then
      if 2 ≤ count then
        if 4 ≤ count + pads + 1 then some [] else base64From count left (pads + 1) rest
      else base64From count left pads rest
    else match base64Value? c with
      | none => base64From count left pads rest
      | some v =>
        match count with
        | 0 => base64From 1 v 0 rest
        | 1 => (UInt8.ofNat (left * 4 + v / 16) :: ·) <$> base64From 2 (v % 16) 0 rest
        | 2 => (UInt8.ofNat (left * 16 + v / 4) :: ·) <$> base64From 3 (v % 4) 0 rest
        | _ => (UInt8.ofNat (left * 64 + v) :: ·) <$> base64From 0 0 0 rest

def binary (text : String) : Except Error Value :=
  if text.toList.all (·.toNat < 0x80) then
    match base64From 0 0 0 text.toList with
    | some data => .ok (.bytes data)
    | none => .error .malformed
  else .error .malformed

/-- The kind that a text is taken for. -/
def scalarKind (version : Version) (tag : Option Tag) (plain : Bool) (text : String) : Kind :=
  match tag with
  | some t => t.kind
  | none => if plain then plainKind version text else .str

/-- What a text denotes. A truth value with an anchor is kept as a number. -/
def scalarValue (version : Version) (tag : Option Tag) (plain anchored : Bool) (text : String) :
    Except Error Value :=
  match scalarKind version tag plain text with
  | .null => .ok .null
  | .bool =>
    match boolValue? text with
    | some b => .ok (if anchored then .int (if b then 1 else 0) else .bool b)
    | none => .error (.notBool (String.ofList (lowercase text.toList)))
  | .int => .int <$> readInt version text
  | .real => if isNanWord text then .ok .notANumber else .real <$> readReal version text
  | .timestamp =>
    match TimeText.read text.toList with
    | some t => .moment <$> t.moment
    | none => .error .malformed
  | .str => .ok (if tag.any (·.byHandle) then .tagged text else .str text)
  | .binary => binary text
  | .merge => .ok (.tagged text)
  | .defaultValue => .ok (.tagged text)
  | .unknown => .ok (.tagged text)
  | .seq => .error .malformed
  | .map => .error .malformed
  | .set => .error .malformed
  | .orderedMap => .error .malformed
  | .pairs => .error .malformed

inductive Form
  | seq
  | map
  | set
  | orderedMap
  | pairs
  /-- By a tag that has no meaning here. -/
  | foreign
  deriving DecidableEq, Repr

/-- What a tag asks for, unless it asks for a text. -/
def Tag.form? (tag : Tag) : Option Form :=
  match tag.kind with
  | .seq => some .seq
  | .map => some .map
  | .set => some .set
  | .orderedMap => some .orderedMap
  | .pairs => some .pairs
  | .unknown => some .foreign
  | .merge => some .foreign
  | .defaultValue => some .foreign
  | .str => if tag.byHandle then some .foreign else none
  | _ => none

def isMergeKey (version : Version) : Node → Bool
  | .scalar tag plain _ text => scalarKind version tag plain text = .merge
  | _ => false

/-- Whether a node is the key `=`, which is a text where it is a key. -/
def isDefaultKey (version : Version) : Node → Bool
  | .scalar tag plain _ text => scalarKind version tag plain text = .defaultValue
  | _ => false

def Node.isMap : Node → Bool
  | .mapping .. => true
  | .around isMap => isMap
  | _ => false

def hasKey (pairs : List (Value × Value)) (key : Value) : Bool :=
  pairs.any fun p => p.1.sameKey key

/-- Puts the pairs of the merged maps behind the own ones, where their keys are new. -/
def mergeInto (own : List (Value × Value)) (merged : List (List (Value × Value))) :
    List (Value × Value) :=
  merged.flatten.foldl (fun pairs p => if hasKey pairs p.1 then pairs else pairs ++ [p]) own

def mergedPairs : Value → Except Error (List (Value × Value))
  | .map pairs => .ok pairs
  | .around _ => .ok []
  | _ => .error .mergedSet

/-- How much is built of a node that is come to. -/
inductive Extent
  /-- All of it. -/
  | whole
  /-- The node itself; what lists and maps inside of it hold is put off. -/
  | outside
  /-- Nothing but texts: a list or a map is put off. -/
  | text
  deriving DecidableEq, Repr

/-- How much is built of the nodes inside. -/
def Extent.inside : Extent → Extent
  | .whole => .whole
  | _ => .text

abbrev Building := StateT (List Node) (Except Error)

namespace Building

/-- Puts a node off, with what stands for it until then. -/
def putOff (node : Node) (blank : Value) : Building Value := do
  modify (· ++ [node])
  return blank

/-- Any refusal inside of what a foreign tag stands for is one of the tag. -/
def foreign {α : Type} (b : Building α) : Building α := fun later =>
  match b later with
  | .ok r => .ok r
  | .error _ => .error .malformed

end Building

open Building

mutual

/-- What a node denotes. A map that is built is built whole, and so are all keys. -/
def build (version : Version) : Extent → Node → Building Value
  | _, .around isMap => return .around isMap
  | extent, .scalar tag plain anchored text =>
    let form? := (tag.bind Tag.form?).filter (· ≠ .foreign)
    if extent = .text ∧ form?.isSome then putOff (.scalar tag plain anchored text) .null
    else monadLift (scalarValue version tag plain anchored text)
  | extent, .sequence tag items => do
    let some form := tag.elim (some .seq) Tag.form? | throw .malformed
    if extent = .text then putOff (.sequence tag items) (.seq [])
    else match form with
      | .seq => return .seq (← buildItems version extent.inside items)
      | .foreign => foreign do return .seq (← buildItems version extent.inside items)
      | .orderedMap => return .map (← buildOrdered version extent.inside [] items)
      | .pairs => return .seq (← buildPairs version extent.inside items)
      | _ => throw .malformed
  | extent, .mapping tag pairs => do
    let some form := tag.elim (some .map) Tag.form? | throw .malformed
    let blank := if form = .set then .set [] else .map []
    if extent = .text then putOff (.mapping tag pairs) blank
    else
      let body (extent : Extent) : Building Value := do
        let merged ← mergesOf version false pairs
        let own ← pairsOf version extent [] pairs
        return .map (mergeInto own (← merged.mapM fun v => monadLift (mergedPairs v)))
      match form with
      | .map => body .whole
      | .foreign => foreign (body extent.inside)
      | .set => return .set (← membersOf version extent.inside [] pairs)
      | _ => throw .malformed

def buildItems (version : Version) (extent : Extent) : List Node → Building (List Value)
  | [] => return []
  | n :: rest => do
    let v ← build version extent n
    return v :: (← buildItems version extent rest)

/-- An ordered map, by maps of one pair each. Its keys are texts, and none may stand twice. -/
def buildOrdered (version : Version) (extent : Extent) (done : List (Value × Value)) :
    List Node → Building (List (Value × Value))
  | [] => return done
  | .mapping _ [(key, value)] :: rest => do
    let k ← build version extent key
    Value.checkPlain [k]
    if hasKey done k then throw .repeatedEntry
    let v ← build version extent value
    buildOrdered version extent (done ++ [(k, v)]) rest
  | _ => throw .malformed

def buildPairs (version : Version) (extent : Extent) : List Node → Building (List Value)
  | [] => return []
  | .mapping _ [(key, value)] :: rest => do
    let k ← build version extent key
    let v ← build version extent value
    return .seq [k, v] :: (← buildPairs version extent rest)
  | _ => throw .malformed

/-- The maps that are merged into a map; only one key may ask for them. -/
def mergesOf (version : Version) (seen : Bool) : List (Node × Node) → Building (List Value)
  | [] => return []
  | (key, value) :: rest =>
    if isMergeKey version key then
      if seen then throw .malformed
      else match value with
        | .sequence _ items => do
          let maps ← mergedMaps version items
          return maps ++ (← mergesOf version (!items.isEmpty) rest)
        | value => do
          if !value.isMap then throw .malformed
          let v ← build version .whole value
          return v :: (← mergesOf version true rest)
    else mergesOf version seen rest

def mergedMaps (version : Version) : List Node → Building (List Value)
  | [] => return []
  | n :: rest => do
    if !n.isMap then throw .malformed
    let v ← build version .whole n
    return v :: (← mergedMaps version rest)

/-- The own pairs of a map. No key may stand twice. -/
def pairsOf (version : Version) (extent : Extent) (done : List (Value × Value)) :
    List (Node × Node) → Building (List (Value × Value))
  | [] => return done
  | (key, value) :: rest =>
    if isMergeKey version key then pairsOf version extent done rest
    else do
      let k ← if isDefaultKey version key then pure (.str "=") else build version .whole key
      if k.isSet then throw .malformed
      let v ← build version extent value
      Value.checkPlain k.held
      if hasKey done k then throw .malformed
      pairsOf version extent (done ++ [(k, v)]) rest

def membersOf (version : Version) (extent : Extent) (done : List Value) :
    List (Node × Node) → Building (List Value)
  | [] => return done
  | (key, value) :: rest => do
    let k ← build version .whole key
    if k.isSet || k.isMap then throw .malformed
    let _ ← build version extent value
    Value.checkPlain k.held
    if done.any (·.sameKey k) then throw .malformed
    membersOf version extent (done ++ [k]) rest

end

/-- Goes over the nodes that were put off, and then over those that these put off. -/
def checkLater (version : Version) : Nat → List Node → Except Error Unit
  | 0, _ => .ok ()
  | fuel + 1, nodes => do
    let (_, later) ← (nodes.forM fun n => discard (build version .outside n)).run []
    if later.isEmpty then .ok () else checkLater version fuel later

/-- What a text denotes: nothing where it holds no document. Of several refusals the one of the
outermost node comes first. -/
def parse (text : List Char) : Except Error (Option Value) := do
  match ← node? text with
  | (none, _) => return none
  | (some node, version) =>
    let (_, later) ← (build version .text node).run []
    checkLater version text.length later
    let (v, _) ← (build version .whole node).run []
    return some v

end LinkIndex.Yaml

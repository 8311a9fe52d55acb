import LinkIndex.Json.Basic
import LinkIndex.Yaml.Time

/-!
What YAML text denotes. The pairs of a map keep their order.
-/

namespace LinkIndex.Yaml

inductive Value
  | null
  | bool (b : Bool)
  | int (n : Int)
  | real (x : Binary64)
  /-- What is no number. It is one value, where a computed one would differ from itself. -/
  | notANumber
  | str (s : String)
  | moment (m : Moment)
  | bytes (data : List UInt8)
  /-- A text with a tag that has no meaning here. -/
  | tagged (text : String)
  | seq (items : List Value)
  | map (pairs : List (Value × Value))
  | set (members : List Value)
  /-- The list or the map around. -/
  | around (isMap : Bool)
  deriving Repr

namespace Value

instance : Inhabited Value := ⟨.null⟩

/-- Values that count as absent: null, false, zero, and what is empty. -/
def isFalsy : Value → Bool
  | .null => true
  | .bool b => !b
  | .int n => n == 0
  | .real x => x.isZero
  | .str s => s.isEmpty
  | .bytes data => data.isEmpty
  | .seq items => items.isEmpty
  | .map pairs => pairs.isEmpty
  | .set members => members.isEmpty
  | _ => false

/-- Truth values are the numbers zero and one where keys are compared. -/
def asInt? : Value → Option Int
  | .bool b => some (if b then 1 else 0)
  | .int n => some n
  | _ => none

/-- Times with a zone are the same where they are the same by universal time. -/
def sameTime (s t : Timestamp) : Bool :=
  match s.offset, t.offset with
  | some a, some b =>
    s.minutes - a == t.minutes - b && s.second == t.second && s.micros == t.micros
  | none, none => s == t
  | _, _ => false

mutual

def sameKey : Value → Value → Bool
  | .null, .null => true
  | .notANumber, .notANumber => true
  | .str s, .str t => s == t
  | .moment (.date d), .moment (.date e) => d == e
  | .moment (.time s), .moment (.time t) => sameTime s t
  | .bytes a, .bytes b => a == b
  | .seq xs, .seq ys => sameItems xs ys
  | .map ps, .map qs => samePairs ps qs
  | .real x, .real y => x.equals y
  | .real x, v => v.asInt?.any x.isInt
  | v, .real x => v.asInt?.any x.isInt
  | v, w => v.asInt?.isSome && v.asInt? == w.asInt?

def sameItems : List Value → List Value → Bool
  | [], [] => true
  | x :: xs, y :: ys => sameKey x y && sameItems xs ys
  | _, _ => false

def samePairs : List (Value × Value) → List (Value × Value) → Bool
  | [], [] => true
  | (k, x) :: ps, (l, y) :: qs => sameKey k l && sameKey x y && samePairs ps qs
  | _, _ => false

end

/-- What a list or a map is called in messages. -/
def compoundName? : Value → Option String
  | .seq _ => some "CommentedSeq"
  | .map _ => some "CommentedMap"
  | .set _ => some "CommentedSet"
  | .around isMap => some (if isMap then "CommentedMap" else "CommentedSeq")
  | _ => none

/-- Refuses the first list or map among values. -/
def checkPlain (values : List Value) : Except Error Unit :=
  match values.findSome? compoundName? with
  | some name => .error (.compoundKey name)
  | none => .ok ()

/-- What a key holds; a list and a map are keys by what they hold. -/
def held : Value → List Value
  | .seq items => items
  | .map pairs => pairs.map (·.2)
  | _ => []

def isSet : Value → Bool
  | .set _ => true
  | _ => false

def isMap : Value → Bool
  | .map _ => true
  | .around isMap => isMap
  | _ => false

/-- The first value of a string key in a map. -/
def lookup? (pairs : List (Value × Value)) (key : String) : Option Value :=
  match pairs with
  | [] => none
  | (.str k, v) :: rest => if k = key then some v else lookup? rest key
  | _ :: rest => lookup? rest key

mutual

def ofJson : Json → Value
  | .null => .null
  | .bool b => .bool b
  | .int n => .int n
  | .real x => .real x
  | .str s => .str s
  | .arr elements => .seq (ofElements elements)
  | .obj members => .map (ofMembers members)

def ofElements : List Json → List Value
  | [] => []
  | v :: rest => ofJson v :: ofElements rest

/-- The members of an object as the pairs of a map. -/
def ofMembers : List (String × Json) → List (Value × Value)
  | [] => []
  | (k, v) :: rest => (.str k, ofJson v) :: ofMembers rest

end

end Value

end LinkIndex.Yaml

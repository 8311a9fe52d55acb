import LinkIndex.Assoc
import LinkIndex.Number.Binary64

/-!
JSON values. The members of an object keep their order, and whole numbers are
kept apart from numbers written with a point or an exponent.
-/

namespace LinkIndex

inductive Json
  | null
  | bool (b : Bool)
  | int (n : Int)
  | real (x : Binary64)
  | str (s : String)
  | arr (elements : List Json)
  | obj (members : List (String × Json))
  deriving Repr

namespace Json

instance : Inhabited Json := ⟨.null⟩

/-- The member `key` of an object; none of anything else. -/
def get? (v : Json) (key : String) : Option Json :=
  match v with
  | .obj members => Assoc.get? members key
  | _ => none

/-- Values that count as absent: null, false, zero, and what is empty. -/
def isFalsy : Json → Bool
  | .null => true
  | .bool b => !b
  | .int n => n == 0
  | .real x => x.isZero
  | .str s => s.isEmpty
  | .arr elements => elements.isEmpty
  | .obj members => members.isEmpty

end Json

end LinkIndex

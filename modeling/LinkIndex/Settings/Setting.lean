import LinkIndex.Json.Basic

/-!
Values as they are set from outside: by a configuration file, by the environment
or by a call. Where two sources set the same table, the tables are merged.
-/

namespace LinkIndex

inductive Setting
  | flag (b : Bool)
  | int (n : Int)
  | real (x : Binary64)
  | text (s : String)
  | list (items : List Setting)
  | table (entries : List (String × Setting))
  /-- Nothing, or a value that no setting can have. -/
  | other
  deriving Repr

namespace Setting

instance : Inhabited Setting := ⟨.other⟩

mutual

def ofJson : Json → Setting
  | .null => .other
  | .bool b => .flag b
  | .int n => .int n
  | .real x => .real x
  | .str s => .text s
  | .arr elements => .list (ofElements elements)
  | .obj members => .table (ofMembers members)

def ofElements : List Json → List Setting
  | [] => []
  | v :: rest => ofJson v :: ofElements rest

def ofMembers : List (String × Json) → List (String × Setting)
  | [] => []
  | (k, v) :: rest => (k, ofJson v) :: ofMembers rest

end

mutual

/-- A value that counts before another one: tables are merged, anything else is replaced. -/
def merge : Setting → Setting → Setting
  | .table strong, .table weak => .table (mergeTables strong weak)
  | strong, _ => strong

/-- The entries of `strong` over those of `weak`. -/
def mergeTables : List (String × Setting) → Assoc String Setting → Assoc String Setting
  | [], weak => weak
  | (k, v) :: rest, weak =>
    mergeTables rest (weak.put k (match weak.get? k with
      | some w => merge v w
      | none => v))

end

end Setting

end LinkIndex

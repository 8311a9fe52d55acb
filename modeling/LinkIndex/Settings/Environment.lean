import LinkIndex.Json.Reader
import LinkIndex.Settings.Switch
import LinkIndex.Text.Blank
import LinkIndex.Text.Lowercase

/-!
Settings in environment variables. The name of a variable is the name of a setting
behind a common start, in any case. The table of the extraction may be given whole,
as JSON, and entry by entry in variables of their own, with two underscores in front
of each key.
-/

namespace LinkIndex.Environment

abbrev Variables := List (String × String)

/-- What the names of all variables start with, in lower case. -/
def nameStart : String := "mdlinks_"

/-- What stands in front of each key of a table. -/
def keyMark : List Char := ['_', '_']

def tableName : String := "extractor"

def lower (s : String) : String :=
  String.ofList (lowercase s.toList)

/-- The value of a variable by its exact name. -/
def value? (env : Variables) (name : String) : Option String :=
  (Assoc.ofList env).get? name

/-- The variables by their names in lower case. Of two with the same name the later one counts. -/
def folded (env : Variables) : Assoc String String :=
  Assoc.ofList (env.map fun p => (lower p.1, p.2))

def cutAtMark : Nat → List Char → List (List Char)
  | 0, cs => [cs]
  | _, [] => [[]]
  | fuel + 1, c :: rest =>
    match Text.dropPrefix? keyMark (c :: rest) with
    | some after => [] :: cutAtMark fuel after
    | none =>
      match cutAtMark fuel rest with
      | [] => [[c]]
      | first :: others => (c :: first) :: others

/-- The keys that the rest of a name gives. -/
def keysOf (rest : List Char) : List String :=
  (cutAtMark (rest.length + 1) rest).map String.ofList

/-- Puts a value into a table of tables. What has a value already is not made a table. -/
def putDeep (v : String) : List String → Assoc String Setting → Assoc String Setting
  | [], t => t
  | [key], t => t.put key (.text v)
  | key :: rest, t =>
    match t.get? key with
    | none => t.put key (.table (putDeep v rest []))
    | some (.table inner) => t.put key (.table (putDeep v rest inner))
    | some _ => t

/-- The entries that variables of their own give to the table. -/
def entries (env : Assoc String String) : Assoc String Setting :=
  let start := nameStart.toList ++ tableName.toList ++ keyMark
  env.foldl (fun t p =>
    match Text.dropPrefix? start p.1.toList with
    | some rest => putDeep p.2 (keysOf rest) t
    | none => t) []

/-- A key that is the name of a switch but for its case becomes that name. -/
def switchKey (key : String) : String :=
  (Switch.all.find? fun s => lower s.name = lower key).elim key Switch.name

def withSwitchKeys (t : Assoc String Setting) : Assoc String Setting :=
  Assoc.ofList (t.map fun p => (switchKey p.1, p.2))

/-- A variable whose value is not JSON, by the setting that it stands for. -/
structure Unreadable where
  setting : String
  deriving DecidableEq, Repr

def Unreadable.message (e : Unreadable) : String :=
  "error parsing value for field \"" ++ e.setting ++ "\" from source \"EnvSettingsSource\""

/-- The table of the extraction, if anything is set. -/
def table? (env : Assoc String String) : Except Unreadable (Option Setting) :=
  match env.get? (nameStart ++ tableName) with
  | none =>
    match entries env with
    | [] => .ok none
    | t => .ok (some (.table (withSwitchKeys t)))
  | some text =>
    match Json.parse text.toList with
    | .error _ => .error ⟨tableName⟩
    | .ok .null => .ok none
    | .ok v =>
      match Setting.ofJson v with
      | .table whole =>
        .ok (some (.table (withSwitchKeys (Setting.mergeTables (entries env) whole))))
      | v => .ok (some v)

/-- The settings that the environment gives, of those with the given names and of the table. -/
def settings (names : List String) (env : Variables) : Except Unreadable (Assoc String Setting) :=
  let env := folded env
  let plain := names.filterMap fun name =>
    (env.get? (nameStart ++ name)).map fun v => (name, Setting.text v)
  match table? env with
  | .error e => .error e
  | .ok none => .ok plain
  | .ok (some t) => .ok (plain ++ [(tableName, t)])

end LinkIndex.Environment

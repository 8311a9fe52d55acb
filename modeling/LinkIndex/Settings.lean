import LinkIndex.Corpus.Reading
import LinkIndex.Settings.ConfigFile
import LinkIndex.Settings.Environment
import LinkIndex.Toml.Reader

/-!
The settings of a run. What a call gives comes first, then the environment, then the
configuration file; tables are merged entry by entry. What is set nowhere is off.
-/

namespace LinkIndex

structure Settings where
  /-- The directory that the keys of documents are taken relative to. -/
  root : Path
  configPath : Option Path := none
  jsonOutput : Bool := false
  quiet : Bool := false
  verbose : Bool := false
  logJson : Bool := false
  extractor : Options := {}
  deriving DecidableEq, Repr

namespace Settings

structure Call where
  configPath : Option String := none
  root : Option Path := none
  flags : Assoc String Setting := []

/-- Where settings come from besides the call. -/
structure Surroundings where
  disk : Disk
  cwd : Location
  environment : Environment.Variables

inductive Error
  | configFile (path : Path) (message : String)
  | tooManyDigits (count : Nat)
  | encoding (error : Utf8.DecodeError)
  | environment (error : Environment.Unreadable)
  | invalid (issues : List Issue)
  deriving DecidableEq, Repr

def Error.message : Error → String
  | .configFile path message => "Invalid TOML in " ++ path.text ++ ": " ++ message
  | .tooManyDigits count => tooManyDigitsMessage count
  | .encoding error => error.message
  | .environment error => error.message
  | .invalid _ => "Invalid configuration:"

def flagNames : List String :=
  ["json_output", "quiet", "verbose", "log_json"]

/-- Settings that a call gives always, so that no other source does. -/
def fixedNames : List String :=
  ["root", "config_path"]

/-- The state of a flag by the entries. -/
def flag (entries : Assoc String Setting) (name : String) : Checked Bool :=
  match entries.get? name with
  | some v => v.toBool.under (.key name)
  | none => .ok false

/-- The switches of the extraction by the entries. -/
def options (entries : Assoc String Setting) : Checked Options :=
  match entries.get? Environment.tableName with
  | some v => (Options.ofSetting v).under (.key Environment.tableName)
  | none => .ok {}

/-- Entries that are no setting are faults. -/
def unknown (entries : Assoc String Setting) : Checked Unit :=
  let known := Environment.tableName :: flagNames ++ fixedNames
  match entries.keys.filter (!known.contains ·) with
  | [] => .ok ()
  | names => .error (names.map fun n => ⟨[.key n], .extraForbidden⟩)

def ofEntries (root : Path) (configPath : Option Path) (entries : Assoc String Setting) :
    Checked Settings :=
  let output := Checked.both Prod.mk (flag entries "json_output") (flag entries "quiet")
  let logging := Checked.both Prod.mk (flag entries "verbose") (flag entries "log_json")
  let flags := Checked.both Prod.mk output logging
  let rest := Checked.both (fun o _ => o) (options entries) (unknown entries)
  Checked.both (fun f o =>
    { root, configPath, jsonOutput := f.1.1, quiet := f.1.2, verbose := f.2.1, logJson := f.2.2,
      extractor := o }) flags rest

/-- The configuration file that counts for a call: the one that it names, if that is a file; where
it names none, the one that is found. -/
def configPathFor (s : Surroundings) (call : Call) : Option Path :=
  match call.configPath.filter (· ≠ "") with
  | some text =>
    let path := Path.ofString text
    if s.disk.hasFile s.cwd path then some path else none
  | none =>
    ConfigFile.find? s.disk s.cwd (Environment.value? s.environment ConfigFile.variableName)
      (call.root.elim s.cwd (Path.resolve s.cwd))

/-- The root for a call: the one that it names, else the directory of the configuration file, else
the directory at hand. -/
def rootFor (s : Surroundings) (call : Call) (configPath : Option Path) : Path :=
  match call.root with
  | some root => root
  | none => configPath.elim (.ofLocation s.cwd) Path.parent

def fileEntries (s : Surroundings) (configPath : Option Path) :
    Except Error (Assoc String Setting) :=
  match configPath with
  | none => .ok []
  | some path =>
    match Corpus.readText s.disk s.cwd path with
    | .error (.encoding e) => .error (.encoding e)
    | .error _ => .ok []
    | .ok text =>
      match Toml.parse text with
      | .ok entries => .ok entries
      | .error (.malformed message) => .error (.configFile path message)
      | .error (.tooManyDigits count) => .error (.tooManyDigits count)

def load (s : Surroundings) (call : Call) : Except Error Settings :=
  let configPath := configPathFor s call
  match fileEntries s configPath with
  | .error e => .error e
  | .ok file =>
    match Environment.settings flagNames s.environment with
    | .error e => .error (.environment e)
    | .ok env =>
      let entries := Setting.mergeTables call.flags (Setting.mergeTables env file)
      (ofEntries (rootFor s call configPath) configPath entries).mapError .invalid

/-- Switches on what is named. Where nothing is, the settings stay as they are. -/
def switchOn (s : Settings) (names : List String) : Checked Settings :=
  match names with
  | [] => .ok s
  | names =>
    match s.extractor.switchOn names with
    | .ok extractor => .ok { s with extractor }
    | .error issues => .error issues

end Settings

end LinkIndex

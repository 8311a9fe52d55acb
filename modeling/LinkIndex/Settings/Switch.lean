import LinkIndex.Extract.Options
import LinkIndex.Settings.Issue

/-!
The switches of an extraction as they are set from outside. Each has a name in two
spellings, with capitals and with underscores. Where both are given, the one with
capitals is the name of the switch and the other one is unknown; and no unknown
name is accepted.
-/

namespace LinkIndex

inductive Switch
  | ignoreDrafts
  | keyBySlug
  | headingSlugs
  | resetOnRun
  deriving DecidableEq, Repr

namespace Switch

def all : List Switch :=
  [.ignoreDrafts, .keyBySlug, .headingSlugs, .resetOnRun]

/-- The name with capitals. -/
def name : Switch → String
  | .ignoreDrafts => "astroIgnoreDraft"
  | .keyBySlug => "astroUseSlug"
  | .headingSlugs => "createHeadingsSlug"
  | .resetOnRun => "resetDataOnRun"

/-- The name with underscores. -/
def plainName : Switch → String
  | .ignoreDrafts => "astro_ignore_draft"
  | .keyBySlug => "astro_use_slug"
  | .headingSlugs => "create_headings_slug"
  | .resetOnRun => "reset_data_on_run"

def get (options : Options) : Switch → Bool
  | .ignoreDrafts => options.ignoreDrafts
  | .keyBySlug => options.keyBySlug
  | .headingSlugs => options.headingSlugs
  | .resetOnRun => options.resetOnRun

def turnOn (options : Options) : Switch → Options
  | .ignoreDrafts => { options with ignoreDrafts := true }
  | .keyBySlug => { options with keyBySlug := true }
  | .headingSlugs => { options with headingSlugs := true }
  | .resetOnRun => { options with resetOnRun := true }

/-- The name by which entries set a switch, if they do. -/
def nameIn (entries : Assoc String Setting) (s : Switch) : Option String :=
  if entries.has s.name then some s.name
  else if entries.has s.plainName then some s.plainName
  else none

/-- The state of a switch by the entries. -/
def check (entries : Assoc String Setting) (s : Switch) : Checked Bool :=
  match s.nameIn entries with
  | some name =>
    match entries.get? name with
    | some v => v.toBool.under (.key name)
    | none => .ok false
  | none => .ok false

end Switch

namespace Options

/-- The entries that set no switch are faults. -/
def unknownEntries (entries : Assoc String Setting) : Checked Unit :=
  let known := Switch.all.filterMap (Switch.nameIn entries)
  match entries.keys.filter (!known.contains ·) with
  | [] => .ok ()
  | names => .error (names.map fun n => ⟨[.key n], .extraForbidden⟩)

def ofEntries (entries : Assoc String Setting) : Checked Options :=
  let check := Switch.check entries
  let drafts := Checked.both Prod.mk (check .ignoreDrafts) (check .keyBySlug)
  let headings := Checked.both Prod.mk (check .headingSlugs) (check .resetOnRun)
  let switches := Checked.both (fun a b => Options.mk a.1 a.2 b.1 b.2) drafts headings
  Checked.both (fun options _ => options) switches (unknownEntries entries)

/-- Switches as they are set from outside. -/
def ofSetting : Setting → Checked Options
  | .table entries => ofEntries entries
  | _ => .fault .modelType

def entries (options : Options) : List (String × Bool) :=
  Switch.all.map fun s => (s.name, s.get options)

/-- Switches on what is named. Only the names with underscores are known here. -/
def switchOn (options : Options) (names : List String) : Checked Options :=
  let own : Assoc String Setting :=
    Switch.all.map fun s => (s.plainName, .flag (s.get options))
  ofEntries (names.foldl (fun m name => m.put name (.flag true)) own)

end Options

end LinkIndex

import LinkIndex.CommandLine.Help
import LinkIndex.CommandLine.Log
import LinkIndex.Corpus.Scan
import LinkIndex.Report.Format
import LinkIndex.Settings

/-!
A call of the program: from its arguments and its surroundings to what it writes and
how it ends.
-/

namespace LinkIndex.CommandLine

/-- Why the program breaks off. -/
inductive Failure
  | settings (error : Settings.Error)
  | scan (error : Corpus.ScanError)
  | markup (error : Report.MarkupError)
  deriving DecidableEq, Repr

structure Result where
  code : Nat := 0
  output : String := ""
  /-- What is logged on the way, in the form of the settings. -/
  log : List Notice := []
  logJson : Bool := false
  /-- What is told of faults, behind the log. -/
  faults : String := ""
  failure : Option Failure := none

/-- What is written to the error output, every time being shown as `time`. -/
def Result.errorOutput (r : Result) (time : String) : String :=
  String.join (r.log.map (logLine r.logJson time)) ++ r.faults

def usageFault (c : Command) (fault : UsageFault) : Result where
  code := 2
  faults := c.faultText fault

def shownText (text : String) : Result where
  output := text

/-- The rest of a text behind a control sequence, where it starts with one. -/
def afterControl? : List Char → Option (List Char)
  | '\x1b' :: '[' :: rest =>
    match rest.dropWhile fun c => c.isDigit || c = ';' || c = '?' with
    | c :: after => if c.isAlpha then some after else none
    | [] => none
  | _ => none

/-- A text without the control sequences of terminals, as far as the fuel goes. -/
def plainFrom : Nat → List Char → List Char
  | 0, cs => cs
  | _, [] => []
  | fuel + 1, c :: rest =>
    match afterControl? (c :: rest) with
    | some after => plainFrom fuel after
    | none => c :: plainFrom fuel rest

/-- A text as it is written where no terminal shows it: without control sequences. -/
def plain (text : String) : String :=
  String.ofList (plainFrom text.length text.toList)

/-- What is told of a fault in the settings. -/
def errorLine (e : Settings.Error) : Result where
  code := 1
  faults := "Error: " ++ plain e.message ++ "\n"

/-- How a call ends where there are no settings: with a word on what is wrong in the configuration,
or else by breaking off. -/
def settingsFault : Settings.Error → Result
  | .configFile path message => errorLine (.configFile path message)
  | .invalid issues => errorLine (.invalid issues)
  | e => { code := 1, failure := some (.settings e) }

/-- The settings that the options of the program ask for. -/
def settingsCall (given : List Given) : Settings.Call where
  configPath := lastValue? given "--config"
  flags :=
    [("json_output", "--json"), ("quiet", "--quiet"), ("verbose", "--verbose"),
      ("log_json", "--log-json")].map fun (name, option) => (name, .flag (isGiven given option))

def scanSwitches : List (String × Switch) :=
  [("--ignore-draft", .ignoreDrafts), ("--use-slug", .keyBySlug),
   ("--heading-slugs", .headingSlugs)]

/-- The switches of an extraction with those that the options of a scan turn on. -/
def scanOptions (options : Options) (given : List Given) : Options :=
  scanSwitches.foldl (fun o (name, switch) => if isGiven given name then Switch.turnOn o switch else o)
    options

def emit (settings : Settings) (scan : Corpus.Scan) : Result :=
  let log := scan.notices.filter (Notice.isLogged settings.verbose)
  let ended : Result := { log, logJson := settings.logJson }
  match scan.report with
  | .error e => { ended with code := 1, failure := some (.scan e) }
  | .ok report =>
    match report.format ⟨settings.jsonOutput, settings.quiet, settings.verbose⟩ with
    | .error e => { ended with code := 1, failure := some (.markup e) }
    | .ok text =>
      { ended with
        output := plain text ++ "\n"
        faults := String.join (report.warnings.map fun w => plain ("WARNING: " ++ w) ++ "\n") }

/-- Scans the documents of the paths, or of the directory at hand. -/
def runScan (s : Settings.Surroundings) (settings : Settings) (given : List Given)
    (paths : List String) : Result :=
  let paths := if paths = [] then [Path.ofLocation s.cwd] else paths.map Path.ofString
  emit settings (Corpus.scan
    { disk := s.disk, cwd := s.cwd, root := settings.root.resolve s.cwd,
      options := scanOptions settings.extractor given } {} paths)

def scanCall (s : Settings.Surroundings) (settings : Settings) (args : List String) : Result :=
  match arguments scanCommand.options true args with
  | .error fault => usageFault scanCommand fault
  | .ok (given, paths) =>
    match firstOf? given ["--examples", "--help"] with
    | some "--examples" => shownText examplesText
    | some _ => shownText scanCommand.help
    | none =>
      match paths.find? fun p => !s.disk.exists? s.cwd p with
      | some missing => usageFault scanCommand (.noSuchPath missing)
      | none => runScan s settings given paths

/-- What the options of the program ask to be shown, before anything else is done. -/
def shownFirst? (given : List Given) : Option Result :=
  match firstOf? given ["--version", "--help"] with
  | some "--version" => some (shownText versionText)
  | some _ => some (shownText program.help)
  | none => none

/-- A command that is not known. It may be an option that stood behind two hyphens. -/
def unknownCommand (name : String) (rest : List String) : Result :=
  match arguments program.options false (name :: rest) with
  | .error fault => usageFault program fault
  | .ok (given, _) =>
    (shownFirst? given).getD
      (usageFault program (.noSuchCommand name (similar name (program.commands.map (·.1)))))

def run (s : Settings.Surroundings) (args : List String) : Result :=
  match arguments program.options false args with
  | .error fault => usageFault program fault
  | .ok (given, rest) =>
    match shownFirst? given with
    | some r => r
    | none =>
      match rest with
      | [] =>
        match Settings.load s (settingsCall given) with
        | .error e => settingsFault e
        | .ok _ => shownText program.help
      | "scan" :: args =>
        match Settings.load s (settingsCall given) with
        | .error e => settingsFault e
        | .ok settings => scanCall s settings args
      | name :: args => unknownCommand name args

end LinkIndex.CommandLine

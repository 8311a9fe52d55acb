import LinkIndex.CommandLine
import LinkIndex.Proofs.Corpus.Accounting
import LinkIndex.Proofs.Settings.Sources
import LinkIndex.Proofs.Store.Encoding

/-!
What a scan writes when it is asked for JSON. The option of the call counts before the
environment and the configuration file, and the form before every other one; the text
has no control sequence that would be taken out of it on its way; and warnings go to
the other output. So what is written is the data of the scan, and reads back as such.
-/

namespace LinkIndex

namespace CommandLine

/-! ### Texts without control sequences -/

theorem plainFrom_eq_self {cs : List Char} (h : '\x1b' ∉ cs) (fuel : Nat) :
    plainFrom fuel cs = cs := by
  induction fuel generalizing cs with
  | zero => rw [plainFrom]
  | succ fuel ih =>
      cases cs with
      | nil => rfl
      | cons c rest =>
          rw [List.mem_cons, not_or] at h
          have hnone : afterControl? (c :: rest) = none := by
            rw [afterControl?]
            rintro rest heq
            exact absurd (List.cons.inj heq).1.symm h.1
          rw [plainFrom, hnone]
          simp only [ih h.2]

theorem plain_toJson {d : LinkData} (hd : d.IsKeyed) :
    plain d.toJson.indented = d.toJson.indented := by
  have hescape : '\x1b' ∉ d.toJson.indented.toList := by
    intro hmem
    rw [Json.indented, String.toList_ofList] at hmem
    exact absurd (hd.isTextual.isPrinted 0 _ hmem) (by decide)
  rw [plain, plainFrom_eq_self hescape, String.ofList_toList]

/-! ### The settings of a call -/

theorem flag_settingsCall (given : List Given) (entries : Assoc String Setting) :
    Settings.flag (Setting.mergeTables (settingsCall given).flags entries) "json_output" =
      .ok (isGiven given "--json") := by
  have hflags : ∀ p ∈ (settingsCall given).flags, ¬p.2.isTable := by
    simp [settingsCall, Setting.isTable]
  have hnames : (Assoc.keys (settingsCall given).flags).Nodup :=
    show ["json_output", "quiet", "verbose", "log_json"].Nodup by decide
  rw [Settings.flag, Setting.get?_mergeTables entries hnames hflags]
  rfl

theorem jsonOutput_of_ofEntries {root : Path} {configPath : Option Path}
    {entries : Assoc String Setting} {json : Bool} {settings : Settings}
    (hjson : Settings.flag entries "json_output" = .ok json)
    (hsettings : Settings.ofEntries root configPath entries = .ok settings) :
    settings.jsonOutput = json := by
  obtain ⟨flags, extractor, hflags, -, rfl⟩ := Checked.both_eq_ok_iff.1 hsettings
  obtain ⟨output, logging, houtput, -, rfl⟩ := Checked.both_eq_ok_iff.1 hflags
  obtain ⟨json', quiet, hjson', -, rfl⟩ := Checked.both_eq_ok_iff.1 houtput
  exact Except.ok.inj (hjson'.symm.trans hjson)

/-- Whether JSON is written is for the call to say, and for no other source. -/
theorem jsonOutput_of_load {s : Settings.Surroundings} {given : List Given} {settings : Settings}
    (hload : Settings.load s (settingsCall given) = .ok settings) :
    settings.jsonOutput = isGiven given "--json" := by
  obtain ⟨entries, hentries⟩ := Settings.ofEntries_of_load hload
  exact jsonOutput_of_ofEntries (flag_settingsCall given _) hentries

/-! ### Scans -/

/-- What the scan of a call depends on besides its paths. -/
def scanSetup (s : Settings.Surroundings) (settings : Settings) (own : List Given) :
    Corpus.Setup where
  disk := s.disk
  cwd := s.cwd
  root := settings.root.resolve s.cwd
  options := scanOptions settings.extractor own

/-- The paths that a call scans: those that it names, or else the directory at hand. -/
def scanPaths (s : Settings.Surroundings) (paths : List String) : List Path :=
  if paths = [] then [.ofLocation s.cwd] else paths.map Path.ofString

/-- A call asks for a text to be shown in place of a scan. -/
def AsksForText (given : List Given) (args : List String) : Prop :=
  isGiven given "--version" ∨ isGiven given "--help" ∨
    ∃ own paths, arguments scanCommand.options true args = .ok (own, paths) ∧
      (isGiven own "--examples" ∨ isGiven own "--help")

/-- A call with the options `given` makes a scan, as the arguments of the command ask for
it, and the scan comes to a report. -/
def Reports (s : Settings.Surroundings) (given : List Given) (args : List String)
    (report : Report) : Prop :=
  ∃ settings own paths, Settings.load s (settingsCall given) = .ok settings ∧
    arguments scanCommand.options true args = .ok (own, paths) ∧
    (Corpus.scan (scanSetup s settings own) {} (scanPaths s paths)).report = .ok report

theorem isGiven_of_firstOf? {given : List Given} {names : List String} {name : String}
    (hfirst : firstOf? given names = some name) : name ∈ names ∧ isGiven given name := by
  refine ⟨by simpa using List.find?_some hfirst, ?_⟩
  obtain ⟨g, hg, rfl⟩ := List.mem_map.1 (List.mem_of_find?_eq_some hfirst)
  exact List.any_eq_true.2 ⟨g, hg, by simp⟩

theorem isKeyed_of_report {setup : Corpus.Setup} {paths : List Path} {report : Report}
    (hreport : (Corpus.scan setup {} paths).report = .ok report) : report.data.IsKeyed := by
  obtain ⟨files, q, -, hreaches, rfl, -⟩ := Corpus.reaches_of_report hreport
  rw [Corpus.startStore_empty] at hreaches
  have hagrees := Store.agrees_recordAll (Corpus.entries setup files)
  rw [← hreaches.store] at hagrees
  exact hagrees.isKeyed

theorem emit_json {settings : Settings} (hjson : settings.jsonOutput = true) {scan : Corpus.Scan}
    (hkeyed : ∀ report, scan.report = .ok report → report.data.IsKeyed)
    (hcode : (emit settings scan).code = 0) :
    ∃ report, scan.report = .ok report ∧
      (emit settings scan).output = report.data.toJson.indented ++ "\n" := by
  cases hreport : scan.report with
  | error e => simp [emit, hreport] at hcode
  | ok report =>
      refine ⟨report, rfl, ?_⟩
      simp only [emit, hreport, Report.format, hjson, if_true, plain_toJson (hkeyed report hreport)]

/-- What the command that scans writes where the settings ask for JSON. -/
theorem scanCall_json {s : Settings.Surroundings} {settings : Settings} {args : List String}
    (hjson : settings.jsonOutput = true) (hcode : (scanCall s settings args).code = 0) :
    ∃ own paths, arguments scanCommand.options true args = .ok (own, paths) ∧
      ((isGiven own "--examples" ∨ isGiven own "--help") ∨
        ∃ report,
          (Corpus.scan (scanSetup s settings own) {} (scanPaths s paths)).report = .ok report ∧
            (scanCall s settings args).output = report.data.toJson.indented ++ "\n") := by
  rw [scanCall] at hcode ⊢
  cases hargs : arguments scanCommand.options true args with
  | error fault => simp [hargs, usageFault] at hcode
  | ok taken =>
      obtain ⟨own, paths⟩ := taken
      refine ⟨own, paths, rfl, ?_⟩
      cases hfirst : firstOf? own ["--examples", "--help"] with
      | some name =>
          obtain ⟨hname, hgiven⟩ := isGiven_of_firstOf? hfirst
          obtain rfl | rfl : name = "--examples" ∨ name = "--help" := by simpa using hname
          · exact .inl (.inl hgiven)
          · exact .inl (.inr hgiven)
      | none =>
          simp only [hargs, hfirst] at hcode ⊢
          cases hmissing : paths.find? fun p => !s.disk.exists? s.cwd p with
          | some missing => simp [hmissing, usageFault] at hcode
          | none =>
              simp only [hmissing] at hcode ⊢
              exact .inr (emit_json hjson (fun _ => isKeyed_of_report) hcode)

/-- The form for JSON gives a text that reads back as the data of the report, with all
keys and lists in their order. And a call of the command that scans, made with the
option for JSON, writes just this text of the data of its scan, and a line feed, if it
ends well, whatever it warns of; unless it was asked to show a text in place of a
scan. -/
theorem json_output_faithful :
    (∀ (report : Report) (form : Form), form.json = true → report.data.IsKeyed →
      ∃ text v, report.format form = .ok text ∧ Json.parse text.toList = .ok v ∧
        LinkData.ofSetting (Setting.ofJson v) = .ok report.data) ∧
    ∀ (s : Settings.Surroundings) (args : List String) (given : List Given) (rest : List String),
      arguments program.options false args = .ok (given, "scan" :: rest) →
      isGiven given "--json" → (run s args).code = 0 →
      AsksForText given rest ∨
        ∃ report text, Reports s given rest report ∧ report.data.IsKeyed ∧
          report.format { json := true } = .ok text ∧ (run s args).output = text ++ "\n" := by
  constructor
  · intro report form hform hkeyed
    obtain ⟨v, hv, hdata⟩ := hkeyed.parse_toJson (List.forall_mem_nil _)
    rw [List.append_nil] at hv
    exact ⟨_, v, by rw [Report.format, if_pos hform], hv, hdata⟩
  · intro s args given rest hargs hjson hcode
    simp only [run, hargs] at hcode ⊢
    cases hshown : firstOf? given ["--version", "--help"] with
    | some name =>
        obtain ⟨hname, hgiven⟩ := isGiven_of_firstOf? hshown
        obtain rfl | rfl : name = "--version" ∨ name = "--help" := by simpa using hname
        · exact .inl (.inl hgiven)
        · exact .inl (.inr (.inl hgiven))
    | none =>
        simp only [shownFirst?, hshown] at hcode ⊢
        cases hload : Settings.load s (settingsCall given) with
        | error e =>
            simp only [hload] at hcode
            cases e <;> cases hcode
        | ok settings =>
            simp only [hload] at hcode ⊢
            have hon : settings.jsonOutput = true := (jsonOutput_of_load hload).trans hjson
            obtain ⟨own, paths, hown, htext | ⟨report, hreport, houtput⟩⟩ :=
              scanCall_json hon hcode
            · exact .inl (.inr (.inr ⟨own, paths, hown, htext⟩))
            · exact .inr ⟨report, _, ⟨settings, own, paths, hload, hown, hreport⟩,
                isKeyed_of_report hreport, rfl, houtput⟩

def fourFilesAtHand : Settings.Surroundings where
  disk := Corpus.fourFiles.disk
  cwd := []
  environment := []

theorem code_fourFilesAtHand :
    (run fourFilesAtHand ["--json", "-v", "scan", "--ignore-draft", "."]).code = 0 := by
  obtain ⟨report, hreport⟩ := Corpus.report_fourFiles
  have hrun : run fourFilesAtHand ["--json", "-v", "scan", "--ignore-draft", "."] =
      emit { root := .ofLocation [], jsonOutput := true, verbose := true }
        (Corpus.scan Corpus.fourFiles {} [.ofString "."]) := rfl
  rw [hrun]
  simp only [emit, hreport, Report.format, if_true]

/-- Keys and texts with marks, backslashes and control characters, and a list of none. -/
def markedReport : Report where
  data :=
    { headings := [("a\"b\\", ["\u0001", "é\n"]), ("", [])]
      internal := [("a\"b\\", ["/x\t"]), ("", ["\u007f"])] }

theorem json_output_fourFiles :
    (markedReport.data.IsKeyed ∧ ∃ text v, markedReport.format { json := true } = .ok text ∧
      Json.parse text.toList = .ok v ∧
      LinkData.ofSetting (Setting.ofJson v) = .ok markedReport.data) ∧
    (run fourFilesAtHand ["--json", "-v", "scan", "--ignore-draft", "."]).code = 0 ∧
      (AsksForText [⟨"--json", none⟩, ⟨"--verbose", none⟩] ["--ignore-draft", "."] ∨
        ∃ report text,
          Reports fourFilesAtHand [⟨"--json", none⟩, ⟨"--verbose", none⟩] ["--ignore-draft", "."]
            report ∧ report.data.IsKeyed ∧ report.format { json := true } = .ok text ∧
          (run fourFilesAtHand ["--json", "-v", "scan", "--ignore-draft", "."]).output =
            text ++ "\n") := by
  have hkeyed : markedReport.data.IsKeyed := by decide
  exact ⟨⟨hkeyed, json_output_faithful.1 markedReport { json := true } rfl hkeyed⟩,
    code_fourFilesAtHand, json_output_faithful.2 _ _ _ _ rfl (by decide) code_fourFilesAtHand⟩

end CommandLine

end LinkIndex

import LinkIndex.CommandLine
import LinkIndex.Proofs.Corpus.Isolation
import LinkIndex.Proofs.Settings.Nearest
import LinkIndex.Proofs.Settings.Sources

/-!
The directory at hand. An absolute path leads on from the top directory wherever a call
is made; and the configuration file that is found, and with it the root that the keys
of documents are taken relative to, is known by an absolute path. So a scan of absolute
paths is the same from all directories that have the same nearest configuration file.
-/

namespace LinkIndex

variable {disk : Disk} {here here' file : Location} {p : Path} {paths : List Path}

/-! ### Absolute paths -/

namespace Path

theorem start_of_isAbsolute (hp : p.isAbsolute = true) (cwd : Location) : p.start cwd = [] :=
  if_pos hp

theorem isAbsolute_ofLocation (l : Location) : (ofLocation l).isAbsolute = true := by
  simp [isAbsolute, ofLocation]

/-- A text that begins with a slash is an absolute path. -/
theorem isAbsolute_ofString {text : String} (htext : text.toList.head? = some '/') :
    (ofString text).isAbsolute = true := by
  obtain ⟨rest, hrest⟩ := List.head?_eq_some_iff.1 htext
  have hslash : (text.toList.takeWhile (· = '/')).length =
      (rest.takeWhile (· = '/')).length + 1 := by
    simp [hrest]
  rw [isAbsolute, ofString, anchorOf, hslash]
  -- one slash at least, so the anchor is not empty
  split <;> simp_all

end Path

theorem Disk.find_of_isAbsolute (hp : p.isAbsolute = true) :
    disk.find here p = disk.find here' p := by
  rw [find, find, Path.start_of_isAbsolute hp, Path.start_of_isAbsolute hp]

theorem Disk.exists?_of_isAbsolute {text : String}
    (htext : (Path.ofString text).isAbsolute = true) :
    disk.exists? here text = disk.exists? here' text := by
  rw [exists?, exists?, Path.start_of_isAbsolute htext, Path.start_of_isAbsolute htext]

/-! ### Scans of absolute paths -/

namespace Corpus

theorem readText_of_isAbsolute (hp : p.isAbsolute = true) :
    readText disk here p = readText disk here' p := by
  have hread : disk.read here p = disk.read here' p := by
    rw [Disk.read, Disk.read, Disk.find_of_isAbsolute hp]
  rw [readText, readText, hread]

theorem readDocument_of_isAbsolute (hp : p.isAbsolute = true) :
    readDocument disk here p = readDocument disk here' p := by
  have htext : readText disk here p = readText disk here' p := readText_of_isAbsolute hp
  simp only [readDocument, readTreeDocument, readTree, readMarkdown, htext]

theorem documents_of_isAbsolute (hpaths : ∀ p ∈ paths, p.isAbsolute = true) :
    documents disk here paths = documents disk here' paths := by
  have hfound : paths.flatMap (found disk here) = paths.flatMap (found disk here') := by
    apply List.flatMap_congr
    intro p hp
    rw [found, found, Disk.find_of_isAbsolute (hpaths p hp)]
  rw [documents, documents, hfound]

/-- Files are read by the absolute paths of their locations, so what is scanned hangs on the
directory at hand by the paths alone. -/
theorem scan_of_isAbsolute (setup : Setup) (hpaths : ∀ p ∈ paths, p.isAbsolute = true)
    (store : Store) (here' : Location) :
    scan { setup with cwd := here' } store paths = scan setup store paths := by
  have hfiles : documents setup.disk here' paths = documents setup.disk setup.cwd paths :=
    documents_of_isAbsolute hpaths
  have hloop (files : List Location) (p : Progress) :
      scanFiles { setup with cwd := here' } p files = scanFiles setup p files := by
    apply scanFiles_congr
    · rfl
    · rfl
    · intro file _
      exact readDocument_of_isAbsolute (Path.isAbsolute_ofLocation file)
  simp only [scan, hfiles, hloop]

end Corpus

/-! ### Settings below a configuration file -/

namespace Settings

variable {env : Environment.Variables} {s : Surroundings} {call : Call} {settings : Settings}

/-- A call that leaves it to the directory at hand where its settings come from. -/
structure IsOpen (env : Environment.Variables) (call : Call) : Prop where
  configPath : call.configPath = none
  root : call.root = none
  environment : Environment.value? env ConfigFile.variableName = none

/-- The configuration file that counts is the nearest one, by its absolute path. -/
theorem IsOpen.configPathFor_eq (hopen : IsOpen s.environment call)
    (hnear : ConfigFile.IsNearest s.disk s.cwd file) :
    configPathFor s call = some (.ofLocation file) := by
  have hfound : ConfigFile.nearest? s.disk s.cwd = some file :=
    ConfigFile.nearest?_eq_some_iff.2 hnear
  simp [configPathFor, hopen.configPath, hopen.root, hopen.environment, ConfigFile.find?, hfound]

theorem IsOpen.rootFor_eq (hopen : IsOpen s.environment call) :
    rootFor s call (some (.ofLocation file)) = (Path.ofLocation file).parent := by
  simp only [rootFor, hopen.root, Option.elim]

theorem fileEntries_of_isAbsolute (hp : p.isAbsolute = true) :
    fileEntries ⟨disk, here, env⟩ (some p) = fileEntries ⟨disk, here', env⟩ (some p) := by
  have htext : Corpus.readText disk here p = Corpus.readText disk here' p :=
    Corpus.readText_of_isAbsolute hp
  simp only [fileEntries, htext]

theorem IsOpen.load_eq (hopen : IsOpen env call) (hnear : ConfigFile.IsNearest disk here file)
    (hnear' : ConfigFile.IsNearest disk here' file) :
    load ⟨disk, here, env⟩ call = load ⟨disk, here', env⟩ call := by
  have hfile : configPathFor ⟨disk, here, env⟩ call = some (.ofLocation file) :=
    hopen.configPathFor_eq hnear
  have hfile' : configPathFor ⟨disk, here', env⟩ call = some (.ofLocation file) :=
    hopen.configPathFor_eq hnear'
  have hentries : fileEntries ⟨disk, here, env⟩ (some (.ofLocation file)) =
      fileEntries ⟨disk, here', env⟩ (some (.ofLocation file)) :=
    fileEntries_of_isAbsolute (Path.isAbsolute_ofLocation file)
  -- with a configuration file the root is no longer a matter of the directory at hand
  have hroot (here : Location) : rootFor ⟨disk, here, env⟩ call (some (.ofLocation file)) =
      (Path.ofLocation file).parent :=
    hopen.rootFor_eq
  simp only [load, hfile, hfile', hentries, hroot]

/-- Keys are taken relative to the directory of the configuration file. -/
theorem IsOpen.root_of_load (hopen : IsOpen s.environment call)
    (hnear : ConfigFile.IsNearest s.disk s.cwd file) (hload : load s call = .ok settings) :
    settings.root = (Path.ofLocation file).parent := by
  obtain ⟨entries, hentries⟩ := ofEntries_of_load hload
  obtain ⟨flags, extractor, -, -, rfl⟩ := Checked.both_eq_ok_iff.1 hentries
  change rootFor s call (configPathFor s call) = _
  rw [hopen.configPathFor_eq hnear, hopen.rootFor_eq]

end Settings

/-! ### Calls -/

namespace CommandLine

variable {env : Environment.Variables} {settings : Settings} {given own : List Given}
  {args : List String}

/-- The texts are absolute paths, and there is at least one. -/
def NamesPlaces (texts : List String) : Prop :=
  texts ≠ [] ∧ ∀ text ∈ texts, text.toList.head? = some '/'

/-- A call that names no configuration file, and whose scan, if it comes to one, is of
absolute paths. -/
structure IsPlaced (args : List String) : Prop where
  unnamed : ∀ given rest, arguments program.options false args = .ok (given, rest) →
    isGiven given "--config" = false
  places : ∀ given rest own texts,
    arguments program.options false args = .ok (given, "scan" :: rest) →
    arguments scanCommand.options true rest = .ok (own, texts) → NamesPlaces texts

theorem isOpen_settingsCall (henv : Environment.value? env ConfigFile.variableName = none)
    (hgiven : isGiven given "--config" = false) : Settings.IsOpen env (settingsCall given) := by
  refine ⟨?_, rfl, henv⟩
  have hnone : given.filter (·.name = "--config") = [] := by
    simpa [isGiven] using hgiven
  simp only [settingsCall, lastValue?, hnone, List.getLast?_nil, Option.bind_none]

/-- What is missing among absolute paths is missing everywhere. -/
theorem find?_missing_of_namesPlaces {texts : List String} (htexts : NamesPlaces texts) :
    (texts.find? fun text => !disk.exists? here text) =
      texts.find? fun text => !disk.exists? here' text := by
  -- two tests that agree on the members of a list are exchanged in `filter`, not in `find?`
  rw [← List.head?_filter, ← List.head?_filter]
  congr 1
  apply List.filter_congr
  intro text htext
  have habsolute : (Path.ofString text).isAbsolute = true :=
    Path.isAbsolute_ofString (htexts.2 text htext)
  rw [Disk.exists?_of_isAbsolute habsolute]

theorem runScan_of_namesPlaces {texts : List String} (htexts : NamesPlaces texts)
    (hroot : settings.root.isAbsolute = true) :
    runScan ⟨disk, here, env⟩ settings own texts =
      runScan ⟨disk, here', env⟩ settings own texts := by
  have hpaths : ∀ p ∈ texts.map Path.ofString, p.isAbsolute = true := by
    intro p hp
    obtain ⟨text, htext, rfl⟩ := List.mem_map.1 hp
    exact Path.isAbsolute_ofString (htexts.2 text htext)
  have hresolved : settings.root.resolve here = settings.root.resolve here' := by
    rw [Path.resolve, Path.resolve, Path.start_of_isAbsolute hroot,
      Path.start_of_isAbsolute hroot]
  simp only [runScan, if_neg htexts.1, hresolved]
  rw [← Corpus.scan_of_isAbsolute _ hpaths {} here']

theorem scanCall_of_namesPlaces (hroot : settings.root.isAbsolute = true)
    (hplaces : ∀ own texts, arguments scanCommand.options true args = .ok (own, texts) →
      NamesPlaces texts) :
    scanCall ⟨disk, here, env⟩ settings args = scanCall ⟨disk, here', env⟩ settings args := by
  rw [scanCall, scanCall]
  cases hargs : arguments scanCommand.options true args with
  | error fault => rfl
  | ok taken =>
      obtain ⟨own, texts⟩ := taken
      have htexts : NamesPlaces texts := hplaces own texts hargs
      have hmissing : (texts.find? fun text => !disk.exists? here text) =
          texts.find? fun text => !disk.exists? here' text :=
        find?_missing_of_namesPlaces htexts
      have hscan : runScan ⟨disk, here, env⟩ settings own texts =
          runScan ⟨disk, here', env⟩ settings own texts :=
        runScan_of_namesPlaces htexts hroot
      simp only [hmissing, hscan]

/-- A call hangs on its surroundings by the settings that it loads and by its scan. -/
theorem run_congr {s s' : Settings.Surroundings}
    (hload : ∀ given rest, arguments program.options false args = .ok (given, rest) →
      Settings.load s (settingsCall given) = Settings.load s' (settingsCall given))
    (hscan : ∀ given rest settings,
      arguments program.options false args = .ok (given, "scan" :: rest) →
      Settings.load s (settingsCall given) = .ok settings →
      scanCall s settings rest = scanCall s' settings rest) :
    run s args = run s' args := by
  simp only [run]
  split
  · rfl
  rename_i given rest hgiven
  rw [← hload given rest hgiven]
  split
  · rfl
  split
  · rfl
  · rename_i rest
    cases hsettings : Settings.load s (settingsCall given) with
    | error e => rfl
    | ok settings => exact hscan given rest settings hgiven hsettings
  · rfl

/-- Below one configuration file it does not matter where a call is made that names absolute
paths and no configuration file: it ends in the same way and writes the same. -/
theorem working_directory_irrelevant
    (henv : Environment.value? env ConfigFile.variableName = none)
    (hnear : ConfigFile.IsNearest disk here file)
    (hnear' : ConfigFile.IsNearest disk here' file) (hargs : IsPlaced args) :
    run ⟨disk, here, env⟩ args = run ⟨disk, here', env⟩ args := by
  have hopen {given rest} (hgiven : arguments program.options false args = .ok (given, rest)) :
      Settings.IsOpen env (settingsCall given) :=
    isOpen_settingsCall henv (hargs.unnamed given rest hgiven)
  apply run_congr
  · intro given rest hgiven
    exact (hopen hgiven).load_eq hnear hnear'
  · intro given rest settings hgiven hload
    have hroot : settings.root = (Path.ofLocation file).parent :=
      (hopen hgiven).root_of_load hnear hload
    apply scanCall_of_namesPlaces
    · rw [hroot]
      exact Path.isAbsolute_ofLocation file.dropLast
    · exact fun own texts => hargs.places given rest own texts hgiven

/-- A site with a configuration file of its own, and one above it. What has the name of such a
file among the documents is a directory. -/
def siteDisk : Disk where
  entries :=
    [(["mdlinks.toml"], .file []),
     (["site", "mdlinks.toml"], .file "[extractor]\nastroUseSlug = true\n".toUTF8.toList),
     (["site", "docs", "mdlinks.toml"], .directory),
     (["site", "docs", "intro.md"], .file "# Intro\n".toUTF8.toList)]

/-- An environment that sets something else. -/
def quietEnvironment : Environment.Variables :=
  [("MDLINKS_QUIET", "1")]

def siteScan : List String :=
  ["--json", "scan", "--heading-slugs", "/site/docs"]

theorem isPlaced_siteScan : IsPlaced siteScan := by
  constructor
  · rintro given rest ⟨⟩
    decide
  · rintro given rest own texts ⟨⟩ ⟨⟩
    exact ⟨by simp, by decide⟩

theorem working_directory_irrelevant_site :
    Environment.value? quietEnvironment ConfigFile.variableName = none ∧
      ConfigFile.IsNearest siteDisk ["site"] ["site", "mdlinks.toml"] ∧
      ConfigFile.IsNearest siteDisk ["site", "docs"] ["site", "mdlinks.toml"] ∧
      IsPlaced siteScan ∧
      run ⟨siteDisk, ["site"], quietEnvironment⟩ siteScan =
        run ⟨siteDisk, ["site", "docs"], quietEnvironment⟩ siteScan := by
  have henv : Environment.value? quietEnvironment ConfigFile.variableName = none := by
    decide +kernel
  have hnear : ConfigFile.IsNearest siteDisk ["site"] ["site", "mdlinks.toml"] :=
    ConfigFile.nearest?_eq_some_iff.1 (by decide +kernel)
  have hnear' : ConfigFile.IsNearest siteDisk ["site", "docs"] ["site", "mdlinks.toml"] :=
    ConfigFile.nearest?_eq_some_iff.1 (by decide +kernel)
  exact ⟨henv, hnear, hnear', isPlaced_siteScan,
    working_directory_irrelevant henv hnear hnear' isPlaced_siteScan⟩

end CommandLine

end LinkIndex

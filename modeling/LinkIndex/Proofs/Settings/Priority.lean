import LinkIndex.Proofs.Settings.Sources

/-!
The switches of an extraction by their sources. The environment counts before the
configuration file, and what neither sets is off. A file may name a switch in two
spellings, but the environment knows only the one with underscores, and tables are
merged before names are looked at. So where a file has a switch under its name with
capitals and the environment sets the same switch, the merged table has it twice,
the name of the environment counts as unknown, and there are no settings at all.
-/

namespace LinkIndex

/-! ### Tables of switches -/

namespace Switch

variable {entries : Assoc String Setting}

/-- The state to which a table sets a switch, under either of its names. -/
def stateIn? (entries : Assoc String Setting) (w : Switch) : Option Bool :=
  ((entries.get? w.name).or (entries.get? w.plainName)).bind fun v => v.toBool.toOption

/-- The state to which the environment sets a switch. -/
def stateOf? (env : Environment.Variables) (w : Switch) : Option Bool :=
  (Environment.value? env w.variableName).bind boolWord?

/-- A table has the switch under its name with capitals, and the environment sets it
too. -/
def Clashes (table : Assoc String Setting) (env : Environment.Variables) (w : Switch) : Prop :=
  table.has w.name ∧ (Environment.value? env w.variableName).isSome

instance (table : Assoc String Setting) (env : Environment.Variables) (w : Switch) :
    Decidable (w.Clashes table env) :=
  inferInstanceAs (Decidable (_ ∧ _))

theorem mem_all (w : Switch) : w ∈ all := by
  cases w <;> decide

theorem nameIn_eq_some_iff (w : Switch) {k : String} :
    w.nameIn entries = some k ↔
      entries.has w.name ∧ k = w.name ∨
        ¬entries.has w.name ∧ entries.has w.plainName ∧ k = w.plainName := by
  rw [nameIn]
  by_cases hname : entries.has w.name
  · simp [hname, @eq_comm _ w.name]
  · by_cases hplain : entries.has w.plainName
    · simp [hname, hplain, @eq_comm _ w.plainName]
    · simp [hname, hplain]

/-- Where every value stands for a state, a switch has one: that of its entry, or it
is off. -/
theorem check_eq_ok (hstates : ∀ p ∈ entries, ∃ b, p.2.toBool = .ok b) (w : Switch) :
    w.check entries = .ok ((w.stateIn? entries).getD false) := by
  have hfound {k : String} {v : Setting} (hv : entries.get? k = some v) :
      v.toBool.under (.key k) = .ok (v.toBool.toOption.getD false) := by
    obtain ⟨b, hb⟩ := hstates (k, v) (Assoc.mem_of_get? hv)
    rw [hb]
    rfl
  rw [check, nameIn, stateIn?, Assoc.has, Assoc.has]
  cases hname : entries.get? w.name with
  | some v => simpa [hname] using hfound hname
  | none =>
      cases hplain : entries.get? w.plainName with
      | some v => simpa [hplain] using hfound hplain
      | none => rfl

end Switch

namespace Options

variable {entries : Assoc String Setting}

/-- Options by the state of each switch. -/
def ofStates (state : Switch → Bool) : Options :=
  { ignoreDrafts := state .ignoreDrafts
    keyBySlug := state .keyBySlug
    headingSlugs := state .headingSlugs
    resetOnRun := state .resetOnRun }

@[simp] theorem get_ofStates (state : Switch → Bool) (w : Switch) :
    w.get (ofStates state) = state w := by
  cases w <;> rfl

/-- Where every value stands for a state, only names can be wrong. -/
theorem ofEntries_eq (hstates : ∀ p ∈ entries, ∃ b, p.2.toBool = .ok b) :
    ofEntries entries =
      (unknownEntries entries).map fun _ => ofStates fun w => (w.stateIn? entries).getD false := by
  simp only [ofEntries, Switch.check_eq_ok hstates, Checked.both]
  cases unknownEntries entries <;> rfl

/-- Of names of switches one is unknown just where it has underscores and the table
has the same switch under its name with capitals. -/
theorem unknown_name_iff (hnames : ∀ k ∈ entries.keys, ∃ w : Switch, k = w.name ∨ k = w.plainName)
    (k : String) :
    k ∈ entries.keys.filter (!(Switch.all.filterMap (Switch.nameIn entries)).contains ·) ↔
      ∃ w : Switch, (entries.has w.name ∧ entries.has w.plainName) ∧ k = w.plainName := by
  have hknown : k ∈ Switch.all.filterMap (Switch.nameIn entries) ↔
      ∃ w : Switch, w.nameIn entries = some k := by
    rw [List.mem_filterMap]
    constructor
    · rintro ⟨w, -, h⟩
      exact ⟨w, h⟩
    · rintro ⟨w, h⟩
      exact ⟨w, w.mem_all, h⟩
  rw [List.mem_filter, Bool.not_eq_true', List.contains_eq_mem, decide_eq_false_iff_not, hknown]
  constructor
  · rintro ⟨hk, hnew⟩
    obtain ⟨w, rfl | rfl⟩ := hnames k hk
    · exact absurd ⟨w, w.nameIn_eq_some_iff.2 (.inl ⟨(Assoc.has_iff entries _).2 hk, rfl⟩)⟩ hnew
    · have hplain := (Assoc.has_iff entries _).2 hk
      refine ⟨w, ⟨?_, hplain⟩, rfl⟩
      by_contra hname
      exact hnew ⟨w, w.nameIn_eq_some_iff.2 (.inr ⟨hname, hplain, rfl⟩)⟩
  · rintro ⟨w, ⟨hname, hplain⟩, rfl⟩
    refine ⟨(Assoc.has_iff entries _).1 hplain, ?_⟩
    rintro ⟨w', h⟩
    rcases w'.nameIn_eq_some_iff.1 h with ⟨-, h⟩ | ⟨hname', -, h⟩
    · exact w'.name_ne_plainName w h.symm
    · exact hname' (Switch.plainName_injective h ▸ hname)

/-- A table of switches is accepted just where it names no switch twice, and every
second name is told. -/
theorem unknownEntries_of_names
    (hnames : ∀ k ∈ entries.keys, ∃ w : Switch, k = w.name ∨ k = w.plainName) :
    (unknownEntries entries = .ok () ∧
        ∀ w : Switch, ¬(entries.has w.name ∧ entries.has w.plainName)) ∨
      ∃ issues, unknownEntries entries = .error issues ∧
        (∃ w : Switch, entries.has w.name ∧ entries.has w.plainName) ∧
        ∀ i, i ∈ issues ↔ ∃ w : Switch, (entries.has w.name ∧ entries.has w.plainName) ∧
          i = ⟨[.key w.plainName], .extraForbidden⟩ := by
  have hiff := unknown_name_iff hnames
  rw [unknownEntries]
  generalize entries.keys.filter
    (!(Switch.all.filterMap (Switch.nameIn entries)).contains ·) = unknown at hiff
  cases unknown with
  | nil => exact .inl ⟨rfl, fun w hw => List.not_mem_nil ((hiff _).2 ⟨w, hw, rfl⟩)⟩
  | cons k rest =>
      refine .inr ⟨_, rfl, ?_, fun i => ?_⟩
      · obtain ⟨w, hw, -⟩ := (hiff k).1 List.mem_cons_self
        exact ⟨w, hw⟩
      · rw [List.mem_map]
        constructor
        · rintro ⟨k', hk', rfl⟩
          obtain ⟨w, hw, rfl⟩ := (hiff k').1 hk'
          exact ⟨w, hw, rfl⟩
        · rintro ⟨w, hw, rfl⟩
          exact ⟨w.plainName, (hiff _).2 ⟨w, hw, rfl⟩, rfl⟩

/-- A table that sets switches on or off, each of them under one of its names. -/
structure SpellsSwitches (table : Assoc String Setting) : Prop where
  entries : ∀ p ∈ table, ∃ (w : Switch) (b : Bool),
    (p.1 = w.name ∨ p.1 = w.plainName) ∧ p.2 = .flag b
  single : ∀ w : Switch, ¬(table.has w.name ∧ table.has w.plainName)

end Options

/-! ### Switches of the environment over those of a file -/

namespace Environment

variable {t : Assoc String Setting} {word? : Switch → Option String}

theorem GivesWords.entry (ht : GivesWords t word?) {p : String × Setting} (hp : p ∈ t) :
    ∃ (w : Switch) (v : String), word? w = some v ∧ p = (w.plainName, .text v) := by
  obtain ⟨w, hw⟩ := ht.keys p.1 (List.mem_map_of_mem hp)
  have hget := Assoc.get?_of_mem ht.nodup hp
  rw [hw, ht.get?, Option.map_eq_some_iff] at hget
  obtain ⟨v, hv, hp2⟩ := hget
  exact ⟨w, v, hv, Prod.ext hw hp2.symm⟩

theorem GivesWords.not_isTable (ht : GivesWords t word?) : ∀ p ∈ t, ¬p.2.isTable := by
  intro p hp
  obtain ⟨w, v, -, rfl⟩ := ht.entry hp
  exact Bool.false_ne_true

section Merged

variable {table : Assoc String Setting} {env : Variables}
  (ht : GivesWords t fun w => value? env w.variableName)

include ht

theorem get?_merged (k : String) :
    Assoc.get? (Setting.mergeTables t table) k = (t.get? k).or (table.get? k) :=
  Setting.get?_mergeTables table ht.nodup ht.not_isTable

/-- No name with capitals comes from the environment. -/
theorem get?_merged_name (w : Switch) :
    Assoc.get? (Setting.mergeTables t table) w.name = table.get? w.name := by
  have hnone : t.get? w.name = none := by
    rw [Assoc.get?_eq_none_iff]
    intro hk
    obtain ⟨w', hw⟩ := ht.keys w.name hk
    exact w.name_ne_plainName w' hw
  rw [get?_merged ht, hnone, Option.none_or]

theorem get?_merged_plainName (w : Switch) :
    Assoc.get? (Setting.mergeTables t table) w.plainName =
      ((value? env w.variableName).map Setting.text).or (table.get? w.plainName) := by
  rw [get?_merged ht, ht.get?]

theorem merged_names (htable : Options.SpellsSwitches table) :
    ∀ k ∈ Assoc.keys (Setting.mergeTables t table), ∃ w : Switch, k = w.name ∨ k = w.plainName := by
  intro k hk
  obtain ⟨p, hp, rfl⟩ := List.mem_map.1 hk
  rcases Setting.mem_of_mem_mergeTables ht.not_isTable hp with hp | hp
  · obtain ⟨w, v, -, rfl⟩ := ht.entry hp
    exact ⟨w, .inr rfl⟩
  · obtain ⟨w, b, hname, -⟩ := htable.entries p hp
    exact ⟨w, hname⟩

theorem merged_states (henv : SetsSwitches env) (htable : Options.SpellsSwitches table) :
    ∀ p ∈ Setting.mergeTables t table, ∃ b, p.2.toBool = .ok b := by
  intro p hp
  rcases Setting.mem_of_mem_mergeTables ht.not_isTable hp with hp | hp
  · obtain ⟨w, v, hv, rfl⟩ := ht.entry hp
    obtain ⟨b, hb⟩ := henv.words w v (Assoc.mem_of_mem_ofList (Assoc.mem_of_get? hv))
    exact ⟨b, by simp [Setting.toBool, hb]⟩
  · obtain ⟨w, b, -, hb⟩ := htable.entries p hp
    exact ⟨b, by rw [hb, Setting.toBool]⟩

/-- The merged table has a switch twice just where the environment sets one that the
file has under its name with capitals. -/
theorem merged_twice_iff (htable : Options.SpellsSwitches table) (w : Switch) :
    (Assoc.has (Setting.mergeTables t table) w.name ∧
      Assoc.has (Setting.mergeTables t table) w.plainName) ↔ w.Clashes table env := by
  have hsingle := htable.single w
  simp only [Assoc.has] at hsingle
  simp only [Assoc.has, Switch.Clashes, get?_merged_name ht, get?_merged_plainName ht]
  cases value? env w.variableName with
  -- then both names would have to be in the file
  | none => simpa using hsingle
  | some v => simp

/-- A switch that the merged table has once is in the state to which the environment
sets it, else in the one to which the file does. -/
theorem merged_stateIn? (henv : SetsSwitches env) {w : Switch} (hw : ¬w.Clashes table env) :
    w.stateIn? (Setting.mergeTables t table) = (w.stateOf? env).or (w.stateIn? table) := by
  rw [Switch.stateIn?, Switch.stateIn?, Switch.stateOf?, get?_merged_name ht,
    get?_merged_plainName ht]
  cases hv : value? env w.variableName with
  | none => simp
  | some v =>
      obtain ⟨b, hb⟩ := henv.words w v (Assoc.mem_of_mem_ofList (Assoc.mem_of_get? hv))
      have hname : table.get? w.name = none := by
        simpa [Switch.Clashes, Assoc.has, hv] using hw
      simp [hname, hb, Setting.toBool, Except.toOption]

end Merged

end Environment

/-! ### Settings with switches -/

namespace Settings

variable {entries file table t flags : Assoc String Setting}

/-- A flag of a run that is on or off. -/
def IsFlag (p : String × Setting) : Prop :=
  p.1 ∈ flagNames ∧ ∃ b, p.2 = .flag b

/-- Entries of settings: flags, what a call gives always, and the table. -/
def AreEntries (entries : Assoc String Setting) : Prop :=
  ∀ p ∈ entries, p.1 = Environment.tableName ∨ p.1 ∈ fixedNames ∨ IsFlag p

/-- The table of the entries, which is empty where there is none. -/
def HasTable (entries table : Assoc String Setting) : Prop :=
  (entries.get? Environment.tableName).getD (.table []) = .table table

structure ConfiguresSwitches (file table : Assoc String Setting) : Prop where
  entries : AreEntries file
  hasTable : HasTable file table
  switches : Options.SpellsSwitches table

theorem HasTable.absent_or_found (h : HasTable entries table) :
    entries.get? Environment.tableName = none ∧ table = [] ∨
      entries.get? Environment.tableName = some (.table table) := by
  rw [HasTable] at h
  cases hv : entries.get? Environment.tableName with
  | none => exact .inl ⟨rfl, by simpa [hv] using h.symm⟩
  | some v => exact .inr (by simpa [hv] using h)

theorem HasTable.options_eq (h : HasTable entries table) :
    options entries = (Options.ofEntries table).under (.key Environment.tableName) := by
  rw [options]
  rcases h.absent_or_found with ⟨habsent, rfl⟩ | hfound
  · rw [habsent]
    rfl
  · rw [hfound]
    rfl

theorem AreEntries.flag_ok (h : AreEntries entries) {name : String} (hname : name ∈ flagNames) :
    ∃ b, flag entries name = .ok b := by
  have hother : ∀ name ∈ flagNames, name ≠ Environment.tableName ∧ name ∉ fixedNames := by decide
  rw [flag]
  cases hv : entries.get? name with
  | none => exact ⟨false, rfl⟩
  | some v =>
      rcases h (name, v) (Assoc.mem_of_get? hv) with htable | hfixed | ⟨-, b, hb⟩
      · exact absurd htable (hother name hname).1
      · exact absurd hfixed (hother name hname).2
      · obtain rfl : v = .flag b := hb
        exact ⟨b, rfl⟩

theorem AreEntries.unknown_ok (h : AreEntries entries) : unknown entries = .ok () := by
  have hnil : entries.keys.filter
      (!(Environment.tableName :: flagNames ++ fixedNames).contains ·) = [] := by
    rw [List.filter_eq_nil_iff]
    intro k hk
    obtain ⟨p, hp, rfl⟩ := List.mem_map.1 hk
    rcases h p hp with htable | hfixed | ⟨hflag, -⟩
    · simp [htable]
    · simp [hfixed]
    · simp [hflag]
  simp only [unknown, hnil]

/-- Of such entries only the table can be wrong. -/
theorem AreEntries.ofEntries_eq (h : AreEntries entries) (root : Path)
    (configPath : Option Path) :
    ∃ base : Settings, ofEntries root configPath entries =
      (options entries).map fun extractor => { base with extractor } := by
  obtain ⟨json, hjson⟩ := h.flag_ok (show "json_output" ∈ flagNames by decide)
  obtain ⟨quiet, hquiet⟩ := h.flag_ok (show "quiet" ∈ flagNames by decide)
  obtain ⟨verbose, hverbose⟩ := h.flag_ok (show "verbose" ∈ flagNames by decide)
  obtain ⟨log, hlog⟩ := h.flag_ok (show "log_json" ∈ flagNames by decide)
  refine ⟨{ root, configPath, jsonOutput := json, quiet, verbose, logJson := log }, ?_⟩
  simp only [ofEntries, hjson, hquiet, hverbose, hlog, h.unknown_ok, Checked.both]
  cases options entries <;> rfl

/-- What a call gives counts first, and leaves the table as it is. -/
theorem AreEntries.flags_over (h : AreEntries entries) (hflags : ∀ p ∈ flags, IsFlag p) :
    AreEntries (Setting.mergeTables flags entries) := by
  have hplain : ∀ p ∈ flags, ¬p.2.isTable := by
    intro p hp
    obtain ⟨-, b, hb⟩ := hflags p hp
    rw [hb]
    exact Bool.false_ne_true
  intro p hp
  rcases Setting.mem_of_mem_mergeTables hplain hp with hp | hp
  · exact .inr (.inr (hflags p hp))
  · exact h p hp

theorem HasTable.flags_over (h : HasTable entries table) (hflags : ∀ p ∈ flags, IsFlag p) :
    HasTable (Setting.mergeTables flags entries) table := by
  have hnew : Environment.tableName ∉ Assoc.keys flags := by
    intro hk
    obtain ⟨p, hp, hname⟩ := List.mem_map.1 hk
    have hflag := (hflags p hp).1
    rw [hname] at hflag
    exact absurd hflag (by decide)
  rw [HasTable, Setting.get?_mergeTables_of_not_mem entries hnew]
  exact h

/-- The table of the environment is merged into the one of the file. -/
theorem AreEntries.table_over (h : AreEntries entries) :
    AreEntries (Setting.mergeTables [(Environment.tableName, .table t)] entries) := by
  intro p hp
  rw [Setting.mergeTables_cons, Setting.mergeTables] at hp
  rcases Assoc.mem_put hp with rfl | hp
  · exact .inl rfl
  · exact h p hp

theorem HasTable.table_over {word? : Switch → Option String} (h : HasTable entries table)
    (ht : Environment.GivesWords t word?) :
    HasTable (Setting.mergeTables [(Environment.tableName, .table t)] entries)
      (Setting.mergeTables t table) := by
  rw [HasTable, Setting.mergeTables_cons, Setting.mergeTables, Assoc.get?_put_self,
    Option.getD_some]
  rcases h.absent_or_found with ⟨habsent, rfl⟩ | hfound
  · rw [habsent, Option.elim_none, Setting.mergeTables_nil_right ht.nodup ht.not_isTable]
  · rw [hfound, Option.elim_some, Setting.merge]

variable {s : Surroundings} {call : Call}

/-- What a call loads where the file and the environment set nothing but switches:
they hang on the merged table only. -/
theorem load_eq_map (hflags : ∀ p ∈ call.flags, IsFlag p)
    (hread : fileEntries s (configPathFor s call) = .ok file)
    (hfile : ConfiguresSwitches file table) (henv : Environment.SetsSwitches s.environment) :
    ∃ base : Settings, load s call =
      (((Options.ofEntries (Setting.mergeTables
          (Environment.entries (Environment.folded s.environment)) table)).under
            (.key Environment.tableName)).map fun extractor => { base with extractor }).mapError
        .invalid := by
  have hgives := henv.gives
  have hsettings := henv.settings_eq
  generalize Environment.entries (Environment.folded s.environment) = t at hgives hsettings
  have hmerged : ∃ entries,
      Environment.settings flagNames s.environment = .ok entries ∧
        AreEntries (Setting.mergeTables entries file) ∧
        HasTable (Setting.mergeTables entries file) (Setting.mergeTables t table) := by
    refine ⟨_, hsettings, ?_⟩
    -- without variables of switches the environment gives no table, not an empty one
    split
    · next hnil => simpa only [hnil, Setting.mergeTables] using ⟨hfile.entries, hfile.hasTable⟩
    · exact ⟨hfile.entries.table_over, hfile.hasTable.table_over hgives⟩
  obtain ⟨entries, hentries, hare, htable⟩ := hmerged
  obtain ⟨base, hbase⟩ := (hare.flags_over hflags).ofEntries_eq
    (rootFor s call (configPathFor s call)) (configPathFor s call)
  refine ⟨base, ?_⟩
  simp only [load, hread, hentries, hbase, (htable.flags_over hflags).options_eq]

/-- Where the file and the environment set nothing but switches, there are settings
just where the environment sets no switch that the file has under its name with
capitals. Every switch then is in the state to which the environment sets it, else in
the one to which the file does, else it is off. Else the name with underscores of
every switch of both is told as unknown. -/
theorem load_switches_iff (hflags : ∀ p ∈ call.flags, IsFlag p)
    (hread : fileEntries s (configPathFor s call) = .ok file)
    (hfile : ConfiguresSwitches file table) (henv : Environment.SetsSwitches s.environment) :
    ((∃ settings, load s call = .ok settings) ↔
        ∀ w : Switch, ¬w.Clashes table s.environment) ∧
      (∀ settings, load s call = .ok settings → ∀ w : Switch,
        w.get settings.extractor =
          ((w.stateOf? s.environment).or (w.stateIn? table)).getD false) ∧
      ∀ e, load s call = .error e → ∃ issues, e = .invalid issues ∧
        ∀ i, i ∈ issues ↔ ∃ w : Switch, w.Clashes table s.environment ∧
          i = ⟨[.key Environment.tableName, .key w.plainName], .extraForbidden⟩ := by
  obtain ⟨base, hload⟩ := load_eq_map hflags hread hfile henv
  have hgives := henv.gives
  generalize Environment.entries (Environment.folded s.environment) = t at hload hgives
  have htwice := Environment.merged_twice_iff hgives hfile.switches
  rw [Options.ofEntries_eq (Environment.merged_states hgives henv hfile.switches)] at hload
  rcases Options.unknownEntries_of_names (Environment.merged_names hgives hfile.switches) with
    ⟨hok, hnone⟩ | ⟨issues, herror, ⟨w, hw⟩, hissues⟩
  · have hfree (w : Switch) : ¬w.Clashes table s.environment := mt (htwice w).2 (hnone w)
    rw [hok] at hload
    refine ⟨⟨fun _ => hfree, fun _ => ⟨_, hload⟩⟩, ?_, ?_⟩
    · intro settings hsettings w
      obtain rfl := Except.ok.inj (hload.symm.trans hsettings)
      rw [← Environment.merged_stateIn? hgives henv (hfree w)]
      exact Options.get_ofStates _ w
    · intro e he
      cases hload.symm.trans he
  · rw [herror] at hload
    refine ⟨⟨?_, fun h => absurd ((htwice w).1 hw) (h w)⟩, ?_, ?_⟩
    · rintro ⟨settings, hsettings⟩
      cases hload.symm.trans hsettings
    · intro settings hsettings
      cases hload.symm.trans hsettings
    · intro e he
      obtain rfl := Except.error.inj (hload.symm.trans he)
      refine ⟨_, rfl, fun i => ?_⟩
      rw [List.mem_map]
      constructor
      · rintro ⟨j, hj, rfl⟩
        obtain ⟨w, hw, rfl⟩ := (hissues j).1 hj
        exact ⟨w, (htwice w).1 hw, rfl⟩
      · rintro ⟨w, hw, rfl⟩
        exact ⟨_, (hissues _).2 ⟨w, (htwice w).2 hw, rfl⟩, rfl⟩

/-! ### One file and two environments -/

/-- A configuration file that has a switch under a name of each kind. -/
def twoSpellings : String :=
  "[extractor]\nastroUseSlug = true\nreset_data_on_run = true\n"

def oneFile : Disk where
  entries := [(["mdlinks.toml"], .file (Utf8.encode twoSpellings.toList))]

def beside (environment : Environment.Variables) : Surroundings :=
  { disk := oneFile, cwd := [], environment }

def spelledTable : Assoc String Setting :=
  [("astroUseSlug", .flag true), ("reset_data_on_run", .flag true)]

theorem parse_twoSpellings :
    Toml.parse twoSpellings.toList = .ok [("extractor", .table spelledTable)] := by
  simp only [twoSpellings, String.reduceToList]
  rfl

theorem fileEntries_beside (env : Environment.Variables)
    (hnamed : Environment.value? env ConfigFile.variableName = none) :
    fileEntries (beside env) (configPathFor (beside env) {}) =
      .ok [("extractor", .table spelledTable)] := by
  have hnearest : ConfigFile.nearest? oneFile [] = some ["mdlinks.toml"] := by
    decide +kernel
  have hpath : configPathFor (beside env) {} = some ⟨"/", ["mdlinks.toml"]⟩ := by
    simp only [configPathFor, ConfigFile.find?, beside, hnamed, Option.filter_none,
      Option.elim_none, hnearest, Option.map_some, Path.ofLocation]
  have hread : Corpus.readText oneFile [] ⟨"/", ["mdlinks.toml"]⟩ = .ok twoSpellings.toList := by
    decide +kernel
  rw [hpath]
  simp only [fileEntries, beside, hread, parse_twoSpellings]

theorem configuresSwitches_spelledTable :
    ConfiguresSwitches [("extractor", .table spelledTable)] spelledTable where
  entries := by simp [AreEntries, Environment.tableName]
  hasTable := rfl
  switches := {
    entries := by
      intro p hp
      rcases List.mem_cons.1 hp with rfl | hp
      · exact ⟨.keyBySlug, true, .inl rfl, rfl⟩
      · obtain rfl := List.mem_singleton.1 hp
        exact ⟨.resetOnRun, true, .inr rfl, rfl⟩
    single := by
      intro w
      cases w <;> decide }

/-- The environment turns one switch off under the name that it has in the file, and
another one on that is not there. -/
theorem load_switches_beside :
    let env := [("MDLINKS_EXTRACTOR__RESET_DATA_ON_RUN", "no"),
      ("MDLINKS_EXTRACTOR__CREATE_HEADINGS_SLUG", "On")]
    fileEntries (beside env) (configPathFor (beside env) {}) =
        .ok [("extractor", .table spelledTable)] ∧
      Environment.SetsSwitches env ∧
      ∃ settings, load (beside env) {} = .ok settings ∧
        settings.extractor = { keyBySlug := true, headingSlugs := true } := by
  intro env
  have henv : Environment.SetsSwitches env :=
    Environment.setsSwitches_map [(.resetOnRun, "no"), (.headingSlugs, "On")] (by decide)
  have hread := fileEntries_beside env (by decide)
  have hflags : ∀ p ∈ ({} : Call).flags, IsFlag p := fun _ hp => absurd hp List.not_mem_nil
  obtain ⟨hload, hstates, -⟩ :=
    load_switches_iff hflags hread configuresSwitches_spelledTable henv
  obtain ⟨settings, hsettings⟩ := hload.2 fun w => by cases w <;> decide
  refine ⟨hread, henv, settings, hsettings, ?_⟩
  calc settings.extractor = Options.ofStates fun w => w.get settings.extractor := rfl
    _ = { keyBySlug := true, headingSlugs := true } := by
      simp only [hstates settings hsettings]
      decide

/-- The environment cannot turn off a switch that the file has under its name with
capitals: there are no settings. -/
theorem not_load_beside :
    let env := [("MDLINKS_EXTRACTOR__ASTRO_USE_SLUG", "false")]
    fileEntries (beside env) (configPathFor (beside env) {}) =
        .ok [("extractor", .table spelledTable)] ∧
      ConfiguresSwitches [("extractor", .table spelledTable)] spelledTable ∧
      Environment.SetsSwitches env ∧
      load (beside env) {} =
        .error (.invalid [⟨[.key "extractor", .key "astro_use_slug"], .extraForbidden⟩]) := by
  intro env
  have henv : Environment.SetsSwitches env :=
    Environment.setsSwitches_map [(.keyBySlug, "false")] (by decide)
  have hread := fileEntries_beside env (by decide)
  have hfaults : Options.ofEntries (Setting.mergeTables
      (Environment.entries (Environment.folded env)) spelledTable) =
        .error [⟨[.key "astro_use_slug"], .extraForbidden⟩] := by
    decide +kernel
  refine ⟨hread, configuresSwitches_spelledTable, henv, ?_⟩
  have hflags : ∀ p ∈ ({} : Call).flags, IsFlag p := fun _ hp => absurd hp List.not_mem_nil
  obtain ⟨base, hload⟩ := load_eq_map hflags hread configuresSwitches_spelledTable henv
  rw [hload, show (beside env).environment = env from rfl, hfaults]
  rfl

end Settings

end LinkIndex

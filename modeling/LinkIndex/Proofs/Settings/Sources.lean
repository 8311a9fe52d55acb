import LinkIndex.Settings
import LinkIndex.Proofs.Assoc

/-!
The sources of settings. Tables are merged entry by entry, so that a key is found
in the first source that has it. The environment gives a table of switches, each
under its name with underscores, where variables of their own set them and no other
variable is one of a setting. And what a call loads is checked in one piece, over the
entries of all sources.
-/

namespace LinkIndex

/-! ### Merged tables -/

namespace Setting

def isTable : Setting → Bool
  | .table _ => true
  | _ => false

variable {strong weak : Assoc String Setting} {k : String}

/-- A value that is no table replaces what is there. -/
theorem merge_of_not_table {v : Setting} (w : Setting) (h : ¬v.isTable) : merge v w = v := by
  cases v with
  | table entries => exact absurd rfl h
  | _ => simp [merge]

theorem mergeTables_cons (v : Setting) (rest weak : Assoc String Setting) :
    mergeTables ((k, v) :: rest) weak =
      mergeTables rest (weak.put k ((weak.get? k).elim v (merge v))) := by
  rw [mergeTables]
  cases weak.get? k <;> rfl

theorem mergeTables_cons_of_not_table {v : Setting} (rest weak : Assoc String Setting)
    (h : ¬v.isTable) : mergeTables ((k, v) :: rest) weak = mergeTables rest (weak.put k v) := by
  rw [mergeTables_cons]
  cases weak.get? k with
  | none => rfl
  | some w => rw [Option.elim_some, merge_of_not_table w h]

theorem get?_mergeTables_of_not_mem (weak : Assoc String Setting) (h : k ∉ Assoc.keys strong) :
    Assoc.get? (mergeTables strong weak) k = weak.get? k := by
  induction strong generalizing weak with
  | nil => rw [mergeTables]
  | cons p rest ih =>
      rw [Assoc.keys_cons, List.mem_cons, not_or] at h
      rw [mergeTables_cons, ih _ h.2, Assoc.get?_put, if_neg (Ne.symm h.1)]

/-- A key is found in the first table that has it. -/
theorem get?_mergeTables (weak : Assoc String Setting) (hnd : (Assoc.keys strong).Nodup)
    (hplain : ∀ p ∈ strong, ¬p.2.isTable) :
    Assoc.get? (mergeTables strong weak) k = (Assoc.get? strong k).or (weak.get? k) := by
  induction strong generalizing weak with
  | nil => rw [mergeTables, Assoc.get?_nil, Option.none_or]
  | cons p rest ih =>
      rw [Assoc.keys_cons, List.nodup_cons] at hnd
      rw [mergeTables_cons_of_not_table rest weak (hplain p (by simp))]
      by_cases hk : p.1 = k
      · subst hk
        rw [get?_mergeTables_of_not_mem _ hnd.1]
        simp [Assoc.get?]
      · rw [ih _ hnd.2 fun q hq => hplain q (List.mem_cons_of_mem p hq), Assoc.get?_put,
          if_neg hk]
        simp [Assoc.get?, hk]

/-- Over nothing a table is as it was. -/
theorem mergeTables_nil_right (hnd : (Assoc.keys strong).Nodup)
    (hplain : ∀ p ∈ strong, ¬p.2.isTable) : mergeTables strong [] = strong := by
  have hfold (weak : Assoc String Setting) :
      mergeTables strong weak = strong.foldl (fun m p => m.put p.1 p.2) weak := by
    induction strong generalizing weak with
    | nil => rw [mergeTables, List.foldl_nil]
    | cons p rest ih =>
        rw [mergeTables_cons_of_not_table rest weak (hplain p (by simp)), List.foldl_cons,
          ih (List.nodup_cons.1 hnd).2 fun q hq => hplain q (List.mem_cons_of_mem p hq)]
  exact (hfold []).trans (Assoc.ofList_of_nodup hnd)

/-- Where nothing is a table on its own, the entries are those of the sources. -/
theorem mem_of_mem_mergeTables {p : String × Setting} (hplain : ∀ p ∈ strong, ¬p.2.isTable)
    (h : p ∈ mergeTables strong weak) : p ∈ strong ∨ p ∈ weak := by
  induction strong generalizing weak with
  | nil => exact .inr (by rwa [mergeTables] at h)
  | cons q rest ih =>
      rw [mergeTables_cons_of_not_table rest weak (hplain q (by simp))] at h
      rcases ih (fun q' hq => hplain q' (List.mem_cons_of_mem q hq)) h with h | h
      · exact .inl (List.mem_cons_of_mem q h)
      · rcases Assoc.mem_put h with rfl | h
        · exact .inl List.mem_cons_self
        · exact .inr h

end Setting

/-! ### Variables of switches -/

namespace Switch

/-- The environment variable that sets a switch. -/
def variableName : Switch → String
  | .ignoreDrafts => "MDLINKS_EXTRACTOR__ASTRO_IGNORE_DRAFT"
  | .keyBySlug => "MDLINKS_EXTRACTOR__ASTRO_USE_SLUG"
  | .headingSlugs => "MDLINKS_EXTRACTOR__CREATE_HEADINGS_SLUG"
  | .resetOnRun => "MDLINKS_EXTRACTOR__RESET_DATA_ON_RUN"

theorem plainName_injective {w w' : Switch} (h : w.plainName = w'.plainName) : w = w' := by
  revert h
  cases w <;> cases w' <;> decide

theorem name_ne_plainName (w w' : Switch) : w.name ≠ w'.plainName := by
  cases w <;> cases w' <;> decide

end Switch

namespace Environment

/-- What the names of the keys of the table begin with, in lower case. -/
def keyStart : List Char :=
  nameStart.toList ++ tableName.toList ++ keyMark

theorem dropPrefix?_variableName (w : Switch) :
    Text.dropPrefix? keyStart (lower w.variableName).toList = some w.plainName.toList := by
  cases w <;> decide +kernel

theorem keysOf_plainName (w : Switch) : keysOf w.plainName.toList = [w.plainName] := by
  cases w <;> decide +kernel

theorem switchKey_plainName (w : Switch) : switchKey w.plainName = w.plainName := by
  cases w <;> decide +kernel

theorem variableName_of_lower {w w' : Switch}
    (h : lower w.variableName = lower w'.variableName) : w = w' := by
  have hname := congrArg (fun s : String => Text.dropPrefix? keyStart s.toList) h
  simp only [dropPrefix?_variableName, Option.some.injEq] at hname
  exact Switch.plainName_injective (String.toList_inj.1 hname)

/-- Whether a name in lower case is one of a setting: of the table, of a key of it,
or of a flag. -/
def IsSettingName (name : String) : Prop :=
  name = nameStart ++ tableName ∨ Text.startsWith keyStart name.toList ∨
    ∃ flag ∈ Settings.flagNames, name = nameStart ++ flag

/-- An environment in which variables of switches hold words for truth values and no
other variable is one of a setting. -/
structure SetsSwitches (env : Variables) : Prop where
  words : ∀ (w : Switch) v, (w.variableName, v) ∈ env → ∃ b, boolWord? v = some b
  others : ∀ p ∈ env, (∃ w : Switch, p.1 = w.variableName) ∨ ¬IsSettingName (lower p.1)

theorem setsSwitches_map (pairs : List (Switch × String))
    (h : ∀ p ∈ pairs, (boolWord? p.2).isSome) :
    SetsSwitches (pairs.map fun p => (p.1.variableName, p.2)) where
  words := by
    intro w v hv
    obtain ⟨p, hp, heq⟩ := List.mem_map.1 hv
    obtain ⟨-, rfl⟩ := Prod.mk.inj heq
    exact Option.isSome_iff_exists.1 (h p hp)
  others := by
    intro q hq
    obtain ⟨p, -, rfl⟩ := List.mem_map.1 hq
    exact .inl ⟨p.1, rfl⟩

/-- A table that gives words to switches, each under its name with underscores. -/
structure GivesWords (t : Assoc String Setting) (word? : Switch → Option String) : Prop where
  nodup : t.keys.Nodup
  get? : ∀ w : Switch, t.get? w.plainName = (word? w).map .text
  keys : ∀ k ∈ t.keys, ∃ w : Switch, k = w.plainName

theorem entries_concat (env : List (String × String)) (p : String × String) :
    entries (env ++ [p]) =
      match Text.dropPrefix? keyStart p.1.toList with
      | some rest => putDeep p.2 (keysOf rest) (entries env)
      | none => entries env := by
  simp only [entries, List.foldl_append, List.foldl_cons, List.foldl_nil]
  rfl

/-- A variable of a switch sets the entry of the switch. -/
theorem entries_concat_variable (env : List (String × String)) (w : Switch) (v : String) :
    entries (env ++ [(lower w.variableName, v)]) = (entries env).put w.plainName (.text v) := by
  rw [entries_concat, dropPrefix?_variableName]
  simp only [keysOf_plainName, putDeep]

/-- Other variables set no entry. -/
theorem entries_concat_other {env : List (String × String)} {p : String × String}
    (h : ¬Text.startsWith keyStart p.1.toList) : entries (env ++ [p]) = entries env := by
  have hnone : Text.dropPrefix? keyStart p.1.toList = none := by
    simpa [Text.startsWith] using h
  rw [entries_concat, hnone]

/-- The entries follow the variables one by one: under the name of a switch stands
the last value that its variable has. -/
theorem gives_entries {env : List (String × String)}
    (henv : ∀ p ∈ env, (∃ w : Switch, p.1 = lower w.variableName) ∨
      ¬Text.startsWith keyStart p.1.toList) :
    GivesWords (entries env) fun w => (Assoc.ofList env).get? (lower w.variableName) := by
  induction env using List.reverseRecOn with
  | nil => exact ⟨List.nodup_nil, fun _ => rfl, fun k hk => absurd hk List.not_mem_nil⟩
  | append_singleton env p ih =>
      have hrest := ih fun q hq => henv q (List.mem_append_left [p] hq)
      obtain ⟨name, v⟩ := p
      rcases henv (name, v) (by simp) with ⟨w, hw⟩ | hother
      · obtain rfl : name = lower w.variableName := hw
        rw [entries_concat_variable]
        refine ⟨Assoc.nodup_keys_put hrest.nodup _ _, fun w' => ?_, fun k hk => ?_⟩
        · rw [Assoc.ofList_concat, Assoc.get?_put, Assoc.get?_put, hrest.get?]
          by_cases hww : w = w'
          · simp [hww]
          · rw [if_neg fun h => hww (Switch.plainName_injective h),
              if_neg fun h => hww (variableName_of_lower h)]
        · rw [Assoc.keys_put] at hk
          split at hk
          · exact hrest.keys k hk
          · rcases List.mem_append.1 hk with hk | hk
            · exact hrest.keys k hk
            · exact ⟨w, by simpa using hk⟩
      · rw [entries_concat_other hother]
        refine ⟨hrest.nodup, fun w => ?_, hrest.keys⟩
        have hne : name ≠ lower w.variableName := by
          rintro rfl
          exact hother (by simp [Text.startsWith, dropPrefix?_variableName])
        rw [Assoc.ofList_concat, Assoc.get?_put, if_neg hne, hrest.get?]

/-- The names of switches with underscores stay as they are. -/
theorem GivesWords.withSwitchKeys {t : Assoc String Setting} {word? : Switch → Option String}
    (h : GivesWords t word?) : withSwitchKeys t = t := by
  have hsame : ∀ p ∈ t, (switchKey p.1, p.2) = id p := by
    intro p hp
    obtain ⟨w, hw⟩ := h.keys p.1 (List.mem_map_of_mem hp)
    rw [hw, switchKey_plainName, ← hw]
    rfl
  rw [Environment.withSwitchKeys, List.map_congr_left hsame, List.map_id,
    Assoc.ofList_of_nodup h.nodup]

theorem startsWith_variableName (w : Switch) :
    Text.startsWith keyStart (lower w.variableName).toList := by
  rw [Text.startsWith, dropPrefix?_variableName]
  rfl

namespace SetsSwitches

variable {env : Variables}

/-- In lower case every name is the variable of a switch or of no setting. -/
theorem folded_names (h : SetsSwitches env) {p : String × String} (hp : p ∈ folded env) :
    (∃ w : Switch, p.1 = lower w.variableName) ∨ ¬IsSettingName p.1 := by
  obtain ⟨q, hq, rfl⟩ := List.mem_map.1 (Assoc.mem_of_mem_ofList hp)
  rcases h.others q hq with ⟨w, hw⟩ | hother
  · exact .inl ⟨w, congrArg lower hw⟩
  · exact .inr hother

theorem get?_folded (h : SetsSwitches env) (w : Switch) :
    (folded env).get? (lower w.variableName) = value? env w.variableName := by
  refine Assoc.get?_ofList_map fun p hp hlower => ?_
  -- a name in another case would be one of a setting, and is no variable of a switch
  rcases h.others p hp with ⟨w', hw'⟩ | hother
  · rw [hw'] at hlower ⊢
    rw [variableName_of_lower hlower]
  · rw [hlower] at hother
    exact absurd (.inr (.inl (startsWith_variableName w))) hother

/-- A setting has no variable of its own if its name is no key of the table. -/
theorem get?_folded_eq_none (h : SetsSwitches env) {name : String} (hname : IsSettingName name)
    (hkey : ¬Text.startsWith keyStart name.toList) : (folded env).get? name = none := by
  rw [Assoc.get?_eq_none_iff]
  intro hmem
  obtain ⟨p, hp, rfl⟩ := List.mem_map.1 hmem
  rcases h.folded_names hp with ⟨w, hw⟩ | hother
  · exact hkey (hw ▸ startsWith_variableName w)
  · exact hother hname

theorem get?_folded_flag (h : SetsSwitches env) {flag : String}
    (hflag : flag ∈ Settings.flagNames) :
    (folded env).get? (nameStart ++ flag) = none := by
  refine h.get?_folded_eq_none (.inr (.inr ⟨flag, hflag, rfl⟩)) ?_
  have hall : ∀ flag ∈ Settings.flagNames,
      ¬Text.startsWith keyStart (nameStart ++ flag).toList := by decide +kernel
  exact hall flag hflag

theorem gives (h : SetsSwitches env) :
    GivesWords (entries (folded env)) fun w => value? env w.variableName := by
  have hfolded : Assoc.ofList (folded env) = folded env :=
    Assoc.ofList_of_nodup (Assoc.nodup_keys_ofList _)
  have hgives := gives_entries fun p hp =>
    (h.folded_names hp).imp id fun hother hkey => hother (.inr (.inl hkey))
  rw [hfolded] at hgives
  simpa only [h.get?_folded] using hgives

/-- What such an environment gives: the table of its switches, if it sets any. -/
theorem settings_eq (h : SetsSwitches env) :
    settings Settings.flagNames env =
      .ok (if entries (folded env) = [] then []
        else [(tableName, .table (entries (folded env)))]) := by
  have htable : table? (folded env) =
      .ok (if entries (folded env) = [] then none else some (.table (entries (folded env)))) := by
    have hname : (folded env).get? (nameStart ++ tableName) = none :=
      h.get?_folded_eq_none (.inl rfl) (by decide +kernel)
    rw [table?, hname]
    cases ht : entries (folded env) with
    | nil => rfl
    | cons p rest =>
        simp only [← ht, h.gives.withSwitchKeys]
        rw [ht, if_neg (List.cons_ne_nil p rest)]
  have hplain : (Settings.flagNames.filterMap fun name =>
      ((folded env).get? (nameStart ++ name)).map fun v => (name, Setting.text v)) = [] := by
    rw [List.filterMap_eq_nil_iff]
    intro flag hflag
    rw [h.get?_folded_flag hflag]
    rfl
  simp only [settings, htable, hplain]
  split <;> simp_all

end SetsSwitches

end Environment

/-! ### Settings of a call -/

theorem Checked.both_eq_ok_iff {α β γ : Type} {f : α → β → γ} {a : Checked α} {b : Checked β}
    {c : γ} : Checked.both f a b = .ok c ↔ ∃ x y, a = .ok x ∧ b = .ok y ∧ f x y = c := by
  cases a <;> cases b <;> simp [both]

/-- What a call loads are the settings by the entries of all sources, its own over the others. -/
theorem Settings.ofEntries_of_load {s : Surroundings} {call : Call} {settings : Settings}
    (hload : load s call = .ok settings) :
    ∃ entries, ofEntries (rootFor s call (configPathFor s call)) (configPathFor s call)
      (Setting.mergeTables call.flags entries) = .ok settings := by
  simp only [load] at hload
  split at hload
  · cases hload
  split at hload
  · cases hload
  rename_i file _ _ env _
  refine ⟨Setting.mergeTables env file, ?_⟩
  generalize ofEntries _ _ _ = checked at hload ⊢
  obtain _ | settings' := checked
  · cases hload
  · rw [Except.ok.inj hload]

end LinkIndex

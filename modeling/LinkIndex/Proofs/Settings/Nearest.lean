import LinkIndex.Settings.ConfigFile

/-!
The nearest configuration file. Of the directories on the way from the top down to where
the search starts, it is the lowest that has such a file; a directory of that name does
not count.
-/

namespace LinkIndex.ConfigFile

variable {disk : Disk} {start file dir : Location}

/-- A file is the configuration file of a directory at or above `start`, and no directory at or
above `start` that lies further down has one. -/
def IsNearest (disk : Disk) (start file : Location) : Prop :=
  ∃ dir, dir <+: start ∧ file = dir ++ [fileName] ∧ disk.isFile file = true ∧
    ∀ dir', dir' <+: start → disk.isFile (dir' ++ [fileName]) = true → dir' <+: dir

/-- A directory at or above `start` is reached by going up. -/
theorem take_up (hdir : dir <+: start) :
    start.take (start.length - (start.length - dir.length)) = dir := by
  have hlength : dir.length ≤ start.length := hdir.length_le
  have hup : start.length - (start.length - dir.length) = dir.length := by omega
  rw [hup]
  exact (List.prefix_iff_eq_take.1 hdir).symm

/-- The search asks the directories one by one, each by how far it lies up. -/
theorem nearest?_eq_some_iff_up : nearest? disk start = some file ↔
    ∃ up ≤ start.length, file = start.take (start.length - up) ++ [fileName] ∧
      disk.isFile file = true ∧
      ∀ up' < up, disk.isFile (start.take (start.length - up') ++ [fileName]) = false := by
  simp only [nearest?, candidates, List.find?_map, Option.map_eq_some_iff,
    List.find?_range_eq_some, List.mem_range, Function.comp_apply, Bool.not_eq_true',
    Nat.lt_succ_iff]
  constructor
  · rintro ⟨up, ⟨hfile, hup, hlower⟩, rfl⟩
    exact ⟨up, hup, rfl, hfile, hlower⟩
  · rintro ⟨up, hup, rfl, hfile, hlower⟩
    exact ⟨up, ⟨hfile, hup, hlower⟩, rfl⟩

theorem nearest?_eq_some_iff : nearest? disk start = some file ↔ IsNearest disk start file := by
  rw [nearest?_eq_some_iff_up]
  constructor
  · rintro ⟨up, hup, rfl, hfile, hlower⟩
    refine ⟨_, List.take_prefix _ _, rfl, hfile, ?_⟩
    intro dir' hdir' hfile'
    refine List.prefix_take_iff.2 ⟨hdir', Nat.le_of_not_lt ?_⟩
    -- A directory that lies further down has been asked before.
    intro hbelow
    have hlength : dir'.length ≤ start.length := hdir'.length_le
    have hasked := hlower (start.length - dir'.length) (by omega)
    rw [take_up hdir', hfile'] at hasked
    cases hasked
  · rintro ⟨dir, hdir, rfl, hfile, hlowest⟩
    refine ⟨start.length - dir.length, Nat.sub_le _ _, by rw [take_up hdir], hfile, ?_⟩
    intro up' hup'
    rw [Bool.eq_false_iff]
    intro hfile'
    have hprefix := hlowest _ (List.take_prefix _ _) hfile'
    have hlength := hprefix.length_le
    rw [List.length_take] at hlength
    omega

end LinkIndex.ConfigFile

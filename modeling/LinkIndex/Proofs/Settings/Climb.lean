import LinkIndex.Proofs.Loop
import LinkIndex.Proofs.Settings.Nearest

/-!
The search for the configuration file as a climb. A turn asks one directory; where it has
no file, the next turn asks the directory above it, and the climb ends at the top, which
is its own parent. It ends with the nearest file or with none, after no more turns than
there are directories on the way. A file that the environment names leaves nothing to
climb for.
-/

namespace LinkIndex.ConfigFile

variable {disk : Disk} {start dir : Location}

/-! ### One directory and those above it -/

/-- The candidates of a directory are its own one and those of the directory above it. -/
theorem candidates_eq_cons (dir : Location) :
    candidates dir = (dir ++ [fileName]) :: if dir = [] then [] else candidates dir.dropLast := by
  split
  · next htop =>
      rw [htop]
      rfl
  · next hdir =>
      have hlength : dir.dropLast.length + 1 = dir.length := by
        have hpos := List.length_pos_iff.2 hdir
        rw [List.length_dropLast]
        omega
      rw [candidates, candidates, hlength, List.range_succ_eq_map, List.map_cons, List.map_map,
        Nat.sub_zero, List.take_length]
      congr 1
      apply List.map_congr_left
      intro up _
      show dir.take (dir.length - (up + 1)) ++ [fileName] =
        dir.dropLast.take (dir.dropLast.length - up) ++ [fileName]
      rw [List.length_dropLast, List.dropLast_eq_take, List.take_take]
      congr 2
      omega

theorem nearest?_of_isFile (h : disk.isFile (dir ++ [fileName]) = true) :
    nearest? disk dir = some (dir ++ [fileName]) := by
  rw [nearest?, candidates_eq_cons, List.find?_cons_of_pos h]

theorem nearest?_top (h : ¬ disk.isFile ([] ++ [fileName]) = true) : nearest? disk [] = none := by
  rw [nearest?, candidates_eq_cons, if_pos rfl, List.find?_cons_of_neg h, List.find?_nil]

/-- A directory without a file takes its file from the directory above it. -/
theorem nearest?_dropLast (h : ¬ disk.isFile (dir ++ [fileName]) = true) (hdir : dir ≠ []) :
    nearest? disk dir.dropLast = nearest? disk dir := by
  rw [nearest?, nearest?, candidates_eq_cons dir, if_neg hdir, List.find?_cons_of_neg h]

theorem nearest?_eq_none_iff : nearest? disk start = none ↔
    ∀ dir, dir <+: start → disk.isFile (dir ++ [fileName]) = false := by
  rw [nearest?, candidates, List.find?_eq_none, List.forall_mem_map]
  constructor
  · intro h dir hdir
    have hlength := hdir.length_le
    have hasked := h (start.length - dir.length) (List.mem_range.2 (by omega))
    rwa [take_up hdir, Bool.not_eq_true] at hasked
  · intro h up _
    rw [h _ (List.take_prefix _ _)]
    exact Bool.false_ne_true

/-! ### The loop -/

inductive Search
  /-- A directory is asked next. -/
  | asking (dir : Location)
  | ended (found : Option Path)

namespace Search

variable {s s' : Search}

/-- How a search begins. What the environment names ends it before a directory is asked. -/
def first (disk : Disk) (cwd : Location) (named : Option String) (start : Location) : Search :=
  match named.filter (· ≠ "") with
  | some text =>
    let path := Path.ofString text
    .ended (if disk.hasFile cwd path then some path else none)
  | none => .asking start

/-- One turn. A directory that is its own parent is the last one to be asked. -/
def turn (disk : Disk) : Search → Option Search
  | .ended _ => none
  | .asking dir =>
    if disk.isFile (dir ++ [fileName]) then some (.ended (some (.ofLocation (dir ++ [fileName]))))
    else if dir.dropLast = dir then some (.ended none)
    else some (.asking dir.dropLast)

/-- What a search comes to: the invariant of the climb. -/
def outcome (disk : Disk) : Search → Option Path
  | .asking dir => (nearest? disk dir).map Path.ofLocation
  | .ended found => found

/-- The directories that can still be asked. -/
def left : Search → Nat
  | .asking dir => dir.length + 1
  | .ended _ => 0

theorem exists_ended (h : s.turn disk = none) : ∃ found, s = .ended found := by
  cases s with
  | ended found => exact ⟨found, rfl⟩
  | asking dir =>
      simp only [turn] at h
      split at h
      · cases h
      · split at h <;> cases h

/-- All that a turn does: a file is found; or there is none, at the top or further up. -/
theorem turn_eq_some (h : s.turn disk = some s') :
    ∃ dir, s = .asking dir ∧
      ((disk.isFile (dir ++ [fileName]) = true ∧
          s' = .ended (some (.ofLocation (dir ++ [fileName])))) ∨
        (¬ disk.isFile (dir ++ [fileName]) = true ∧ dir = [] ∧ s' = .ended none) ∨
        (¬ disk.isFile (dir ++ [fileName]) = true ∧ dir ≠ [] ∧ s' = .asking dir.dropLast)) := by
  cases s with
  | ended found => cases h
  | asking dir =>
      refine ⟨dir, rfl, ?_⟩
      simp only [turn] at h
      split at h
      · next hfile => exact .inl ⟨hfile, (Option.some.inj h).symm⟩
      · next hfile =>
          split at h
          · next htop =>
              have hdir : dir = [] := by
                have hlength := congrArg List.length htop
                rw [List.length_dropLast] at hlength
                apply List.eq_nil_of_length_eq_zero
                omega
              exact .inr (.inl ⟨hfile, hdir, (Option.some.inj h).symm⟩)
          · next htop =>
              have hdir : dir ≠ [] := fun hnil => htop (by rw [hnil, List.dropLast_nil])
              exact .inr (.inr ⟨hfile, hdir, (Option.some.inj h).symm⟩)

theorem outcome_turn (h : s.turn disk = some s') : s'.outcome disk = s.outcome disk := by
  obtain ⟨dir, rfl, ⟨hfile, rfl⟩ | ⟨hfile, rfl, rfl⟩ | ⟨hfile, hdir, rfl⟩⟩ := turn_eq_some h
  · rw [outcome, outcome, nearest?_of_isFile hfile, Option.map_some]
  · rw [outcome, outcome, nearest?_top hfile, Option.map_none]
  · rw [outcome, outcome, nearest?_dropLast hfile hdir]

theorem left_turn (h : s.turn disk = some s') : s'.left < s.left := by
  obtain ⟨dir, rfl, ⟨-, rfl⟩ | ⟨-, rfl, rfl⟩ | ⟨-, hdir, rfl⟩⟩ := turn_eq_some h
  · exact Nat.succ_pos _
  · exact Nat.succ_pos _
  · have hlength := List.length_pos_iff.2 hdir
    show dir.dropLast.length + 1 < dir.length + 1
    rw [List.length_dropLast]
    omega

/-- Every search ends, and with what it comes to. -/
theorem exists_runs (disk : Disk) (s : Search) :
    ∃ turns ≤ s.left, Loop.Runs (turn disk) turns s (.ended (s.outcome disk)) := by
  obtain ⟨turns, t, hruns, hend, hpaid⟩ :=
    Loop.exists_runs (turn disk) (fun _ t => t.outcome disk = s.outcome disk) left
      (fun _ _ _ hI hturn => ⟨(outcome_turn hturn).trans hI, left_turn hturn⟩) rfl
  obtain ⟨found, rfl⟩ := exists_ended hruns.turn_eq_none
  obtain rfl : found = s.outcome disk := hend
  exact ⟨turns, by omega, hruns⟩

end Search

/-! ### What is found -/

variable {cwd : Location}

theorem filter_unset {named : Option String} (h : named = none ∨ named = some "") :
    named.filter (· ≠ "") = none := by
  rcases h with rfl | rfl <;> rfl

theorem filter_named {text : String} (h : text ≠ "") :
    (some text).filter (· ≠ "") = some text := by
  simp [h]

theorem find?_eq_outcome (disk : Disk) (cwd start : Location) (named : Option String) :
    find? disk cwd named start = (Search.first disk cwd named start).outcome disk := by
  rw [find?, Search.first]
  cases named.filter (· ≠ "") with
  | none => rfl
  | some text => rfl

/-- The search always ends. Without a name from the environment it ends after no more turns than
there are directories at and above `start`; it then has the file of the lowest of them that has
one, and it has none just where none of them has one. With a name it makes no turn, and it has
what is named if that is a file. -/
theorem find?_exact (disk : Disk) (cwd start : Location) (named : Option String) :
    (named = none ∨ named = some "" →
      (∃ turns ≤ start.length + 1, Loop.Runs (Search.turn disk) turns
        (.first disk cwd named start) (.ended (find? disk cwd named start))) ∧
      (∀ path, find? disk cwd named start = some path ↔
        ∃ file, IsNearest disk start file ∧ path = .ofLocation file) ∧
      (find? disk cwd named start = none ↔
        ∀ dir, dir <+: start → disk.isFile (dir ++ [fileName]) = false)) ∧
    ∀ text, text ≠ "" → named = some text →
      Loop.Runs (Search.turn disk) 0
        (.first disk cwd named start) (.ended (find? disk cwd named start)) ∧
      ∀ path, find? disk cwd named start = some path ↔
        path = .ofString text ∧ disk.hasFile cwd path = true := by
  constructor
  · intro hunset
    have hfirst : Search.first disk cwd named start = .asking start := by
      rw [Search.first, filter_unset hunset]
    have hfound : find? disk cwd named start = (nearest? disk start).map Path.ofLocation := by
      rw [find?, filter_unset hunset]
    refine ⟨?_, ?_, ?_⟩
    · rw [find?_eq_outcome, hfirst]
      exact Search.exists_runs disk (.asking start)
    · intro path
      rw [hfound, Option.map_eq_some_iff]
      constructor
      · rintro ⟨file, hfile, rfl⟩
        exact ⟨file, nearest?_eq_some_iff.1 hfile, rfl⟩
      · rintro ⟨file, hfile, rfl⟩
        exact ⟨file, nearest?_eq_some_iff.2 hfile, rfl⟩
    · rw [hfound, Option.map_eq_none_iff, nearest?_eq_none_iff]
  · rintro text htext rfl
    have hfound : find? disk cwd (some text) start =
        if disk.hasFile cwd (.ofString text) then some (.ofString text) else none := by
      rw [find?, filter_named htext]
    constructor
    · rw [hfound, Search.first, filter_named htext]
      exact .ended rfl
    · intro path
      rw [hfound, Option.ite_none_right_eq_some, Option.some_inj]
      constructor
      · rintro ⟨hfile, rfl⟩
        exact ⟨rfl, hfile⟩
      · rintro ⟨rfl, hfile⟩
        exact ⟨hfile, rfl⟩

/-- Two files on the way up, and below them a directory with the name of such a file. -/
def climbed : Disk where
  entries := [
    (["mdlinks.toml"], .file []),
    (["site", "mdlinks.toml"], .file []),
    (["site", "docs", "mdlinks.toml"], .directory),
    (["site", "docs", "guide"], .directory)]

/-- The directory is passed over, and the upper one of the files is not reached. A name that is
set to a missing file leaves the files unfound. -/
theorem find?_exact_climbed :
    (∃ turns ≤ 4, Loop.Runs (Search.turn climbed) turns
      (.first climbed [] (some "") ["site", "docs", "guide"])
      (.ended (some (.ofLocation ["site", "mdlinks.toml"])))) ∧
    IsNearest climbed ["site", "docs", "guide"] ["site", "mdlinks.toml"] ∧
    "other.toml" ≠ "" ∧
    Loop.Runs (Search.turn climbed) 0
      (.first climbed ["site"] (some "other.toml") ["site"]) (.ended none) := by
  have hfound : find? climbed [] (some "") ["site", "docs", "guide"] =
      some (.ofLocation ["site", "mdlinks.toml"]) := by
    decide
  have hmissing : find? climbed ["site"] (some "other.toml") ["site"] = none := by
    decide
  have hname : "other.toml" ≠ "" := by decide
  obtain ⟨hruns, hpath, -⟩ :=
    (find?_exact climbed [] ["site", "docs", "guide"] (some "")).1 (.inr rfl)
  obtain ⟨hnone, -⟩ :=
    (find?_exact climbed ["site"] ["site"] (some "other.toml")).2 "other.toml" hname rfl
  obtain ⟨file, hnearest, hfile⟩ := (hpath _).1 hfound
  obtain rfl : ["site", "mdlinks.toml"] = file := congrArg Path.names hfile
  rw [hfound] at hruns
  rw [hmissing] at hnone
  exact ⟨hruns, hnearest, hname, hnone⟩

end LinkIndex.ConfigFile

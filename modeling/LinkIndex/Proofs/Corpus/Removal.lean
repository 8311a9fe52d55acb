import LinkIndex.Corpus.Reading
import LinkIndex.Proofs.Corpus.Sidecars

/-!
A disk and the same disk with one file taken away. Nothing else changes: every other
location holds what it held, also the directory that the file lay in, and so every
path leads where it led unless it led to the file. The documents that are found are
the same but for the file, and every other document is read as it was, provided that
the file is no tree file and so stands in for no other.
-/

namespace LinkIndex

namespace Disk

/-- The disk with a file taken away. The directory that it lay in stays. -/
def remove (disk : Disk) (file : Location) : Disk where
  entries := Assoc.erase disk.entries file ++ [(file.dropLast, .directory)]

/-- A disk as file systems have them: each location once, names that lead down, and nothing
below a file. -/
structure IsSound (disk : Disk) : Prop where
  nodup : disk.entries.keys.Nodup
  named : ∀ l ∈ disk.entries.keys, ∀ name ∈ l, name ≠ "" ∧ name ≠ "." ∧ name ≠ ".."
  bottom : ∀ l ∈ disk.entries.keys, disk.isFile l = true →
    ∀ l' ∈ disk.entries.keys, l'.isBelow l = false

instance (disk : Disk) : Decidable disk.IsSound :=
  decidable_of_iff
    (disk.entries.keys.Nodup ∧
      (∀ l ∈ disk.entries.keys, ∀ name ∈ l, name ≠ "" ∧ name ≠ "." ∧ name ≠ "..") ∧
      ∀ l ∈ disk.entries.keys, disk.isFile l = true →
        ∀ l' ∈ disk.entries.keys, l'.isBelow l = false)
    ⟨fun ⟨nodup, named, bottom⟩ => ⟨nodup, named, bottom⟩,
      fun ⟨nodup, named, bottom⟩ => ⟨nodup, named, bottom⟩⟩

structure IsBottom (disk : Disk) (file : Location) : Prop where
  isFile : disk.isFile file = true
  ne_nil : file ≠ []
  bottom : ∀ l ∈ disk.entries.keys, l.isBelow file = false

variable {disk : Disk} {file l l' here top : Location} {cwd : Location} {path : Path}

/-! ### What lies at locations -/

theorem isBelow_of_isBelow_dropLast (hne : file ≠ [])
    (hbelow : Location.isBelow file.dropLast l = true) : file.isBelow l = true := by
  obtain ⟨r, -, hr⟩ := Location.isBelow_iff.1 hbelow
  refine Location.isBelow_iff.2 ⟨r ++ [file.getLast hne], by simp, ?_⟩
  rw [← List.append_assoc, ← hr, List.dropLast_concat_getLast]

theorem isBelow_dropLast (hne : file ≠ []) : file.isBelow file.dropLast = true :=
  Location.isBelow_iff.2 ⟨[file.getLast hne], by simp, (List.dropLast_concat_getLast hne).symm⟩

theorem dropLast_ne_self (hne : file ≠ []) : file.dropLast ≠ file := by
  intro heq
  have hlength := congrArg List.length heq
  have hpos := List.length_pos_iff.2 hne
  rw [List.length_dropLast] at hlength
  omega

theorem any_isBelow_iff : disk.entries.any (·.1.isBelow l) = true ↔
    ∃ l' ∈ disk.entries.keys, l'.isBelow l = true := by
  simp [Assoc.keys]

theorem keys_remove (disk : Disk) (file : Location) :
    (disk.remove file).entries.keys = disk.entries.keys.filter (· ≠ file) ++ [file.dropLast] := by
  rw [← Assoc.keys_erase]
  simp [remove, Assoc.keys]

/-- What lies below a location still does, but for the directory of the file, which is said to
be one. -/
theorem any_isBelow_remove (h : disk.IsBottom file) (hdir : l ≠ file.dropLast) :
    (disk.remove file).entries.any (·.1.isBelow l) = disk.entries.any (·.1.isBelow l) := by
  have hmem : file ∈ disk.entries.keys := Corpus.mem_keys_of_isFile h.isFile
  rw [Bool.eq_iff_iff, any_isBelow_iff, any_isBelow_iff, keys_remove]
  constructor
  · rintro ⟨l', hl', hbelow⟩
    rcases List.mem_append.1 hl' with hkept | hparent
    · exact ⟨l', (List.mem_filter.1 hkept).1, hbelow⟩
    · rw [List.mem_singleton.1 hparent] at hbelow
      exact ⟨file, hmem, isBelow_of_isBelow_dropLast h.ne_nil hbelow⟩
  · rintro ⟨l', hl', hbelow⟩
    by_cases heq : l' = file
    · -- the directory of the file lies below all that the file lay below, but itself
      subst heq
      obtain ⟨r, hr, hfile⟩ := Location.isBelow_iff.1 hbelow
      refine ⟨l'.dropLast, by simp, Location.isBelow_iff.2 ⟨r.dropLast, ?_, ?_⟩⟩
      · intro hnil
        refine hdir ?_
        rw [hfile, List.dropLast_append_of_ne_nil hr, hnil, List.append_nil]
      · nth_rewrite 1 [hfile]
        exact List.dropLast_append_of_ne_nil hr
    · exact ⟨l', List.mem_append_left _ (List.mem_filter.2 ⟨hl', by simpa using heq⟩), hbelow⟩

/-- Only the file itself is gone. -/
theorem contentAt?_remove (h : disk.IsBottom file) (l : Location) :
    (disk.remove file).contentAt? l = if l = file then none else disk.contentAt? l := by
  have hdir := dropLast_ne_self h.ne_nil
  by_cases hl : l = file
  · subst hl
    have hget : (disk.remove l).entries.get? l = none := by
      simp [remove, Assoc.get?_append, Assoc.get?, hdir]
    have hany : (disk.remove l).entries.any (·.1.isBelow l) = false := by
      rw [any_isBelow_remove h hdir.symm, ← Bool.not_eq_true, any_isBelow_iff]
      rintro ⟨l', hl', hbelow⟩
      rw [h.bottom l' hl'] at hbelow
      contradiction
    rw [contentAt?, hget, hany]
    simp [h.ne_nil]
  · have hget : (disk.remove file).entries.get? l =
        (disk.entries.get? l).or (if file.dropLast = l then some .directory else none) := by
      rw [remove, Assoc.get?_append, Assoc.get?_erase_of_ne _ (Ne.symm hl)]
      rfl
    rw [if_neg hl, contentAt?, contentAt?, hget]
    cases hold : disk.entries.get? l with
    | some content => rfl
    | none =>
        by_cases hparent : file.dropLast = l
        · have hbelow : disk.entries.any (·.1.isBelow l) = true :=
            any_isBelow_iff.2 ⟨file, Corpus.mem_keys_of_isFile h.isFile,
              hparent ▸ isBelow_dropLast h.ne_nil⟩
          simp [hparent, hbelow]
        · rw [any_isBelow_remove h (Ne.symm hparent), if_neg hparent]
          rfl

theorem isFile_remove (h : disk.IsBottom file) (l : Location) :
    (disk.remove file).isFile l = (decide (l ≠ file) && disk.isFile l) := by
  rw [isFile, contentAt?_remove h]
  by_cases hl : l = file <;> simp [hl, isFile]

theorem isDirectory_of_isFile (hfile : disk.isFile l = true) : disk.isDirectory l = false := by
  rw [isFile] at hfile
  rw [isDirectory]
  split at hfile
  · rename_i bytes hcontent
    simp [hcontent]
  · contradiction

/-- The directories are the same. -/
theorem isDirectory_remove (h : disk.IsBottom file) (l : Location) :
    (disk.remove file).isDirectory l = disk.isDirectory l := by
  by_cases hl : l = file
  · rw [hl, isDirectory_of_isFile h.isFile, isDirectory, contentAt?_remove h]
    simp
  · rw [isDirectory, contentAt?_remove h, if_neg hl, isDirectory]

/-! ### Where paths lead -/

theorem advance_remove_eq_ok_iff (h : disk.IsBottom file) {piece : String} :
    (disk.remove file).advance l piece = .ok l' ↔ disk.advance l piece = .ok l' ∧ l' ≠ file := by
  rw [advance, advance, isDirectory_remove h]
  cases hdir : disk.isDirectory l with
  | false => simp
  | true =>
      have hl : l ≠ file := by
        rintro rfl
        rw [isDirectory_of_isFile h.isFile] at hdir
        contradiction
      by_cases hstays : piece = "" ∨ piece = "."
      · simp only [hstays, Bool.not_true, Bool.false_eq_true, if_true, if_false, Except.ok.injEq]
        exact ⟨fun heq => ⟨heq, heq ▸ hl⟩, fun heq => heq.1⟩
      · simp only [hstays, Bool.not_true, Bool.false_eq_true, if_false, contentAt?_remove h]
        by_cases hnext : Path.step l piece = file
        · simp only [hnext, if_true, Option.isSome_none, Bool.false_eq_true, if_false, reduceCtorEq,
            false_iff, not_and, not_not]
          intro hok
          split at hok
          · exact (Except.ok.inj hok).symm
          · contradiction
        · simp only [hnext, if_false]
          constructor
          · intro hok
            refine ⟨hok, ?_⟩
            split at hok
            · rw [← Except.ok.inj hok]
              exact hnext
            · contradiction
          · exact fun hok => hok.1

/-- From a file no path leads on. -/
theorem follow_of_isFile (hfile : disk.isFile l = true) {pieces : List String}
    (hok : disk.follow l pieces = .ok l') : l' = l := by
  cases pieces with
  | nil => exact (Except.ok.inj hok).symm
  | cons piece rest =>
      rw [follow, advance, isDirectory_of_isFile hfile] at hok
      contradiction

theorem follow_remove_eq_ok_iff (h : disk.IsBottom file) (hhere : here ≠ file)
    {pieces : List String} : (disk.remove file).follow here pieces = .ok l ↔
      disk.follow here pieces = .ok l ∧ l ≠ file := by
  induction pieces generalizing here with
  | nil =>
      rw [follow, follow, Except.ok.injEq]
      exact ⟨fun heq => ⟨heq, heq ▸ hhere⟩, fun heq => heq.1⟩
  | cons piece rest ih =>
      constructor
      · intro hok
        rw [follow] at hok
        split at hok
        · rename_i next hnext
          obtain ⟨hnext, hne⟩ := (advance_remove_eq_ok_iff h).1 hnext
          rw [follow, hnext]
          exact (ih hne).1 hok
        · cases hok
      · rintro ⟨hok, hl⟩
        rw [follow] at hok
        split at hok
        · rename_i next hnext
          -- a path that meets the file ends there
          have hne : next ≠ file := by
            rintro rfl
            exact hl (follow_of_isFile h.isFile hok)
          rw [follow, (advance_remove_eq_ok_iff h).2 ⟨hnext, hne⟩]
          exact (ih hne).2 ⟨hok, hl⟩
        · cases hok

theorem find_remove_eq_ok_iff (h : disk.IsBottom file) (hstart : path.start cwd ≠ file) :
    (disk.remove file).find cwd path = .ok l ↔ disk.find cwd path = .ok l ∧ l ≠ file :=
  follow_remove_eq_ok_iff h hstart

theorem filesBelow_remove (disk : Disk) (file top : Location) :
    (disk.remove file).filesBelow top = (disk.filesBelow top).filter (· ≠ file) := by
  rw [filesBelow, filesBelow, remove, List.filterMap_append, Assoc.erase, List.filterMap_filter,
    List.filter_filterMap]
  simp only [List.filterMap_cons, List.filterMap_nil, List.append_nil]
  refine List.filterMap_congr ?_
  rintro ⟨l, content⟩ -
  cases content with
  | directory => simp
  | file bytes =>
      by_cases hl : l = file
      · rw [hl]
        by_cases hbelow : file.isBelow top = true <;> simp [hbelow, Option.filter]
      · by_cases hbelow : l.isBelow top = true <;> simp [hl, hbelow, Option.filter]

theorem filesBelow_of_isBottom (h : disk.IsBottom file) : disk.filesBelow file = [] := by
  refine List.filterMap_eq_nil_iff.2 ?_
  rintro ⟨l, content⟩ hentry
  cases content with
  | directory => rfl
  | file bytes => simp [h.bottom l (List.mem_map_of_mem hentry)]

/-! ### Locations of a sound disk -/

theorem IsSound.isDirectory (hdisk : disk.IsSound) (hl : l ∈ disk.entries.keys)
    (hbelow : l.isBelow top = true) : disk.isDirectory top = true := by
  have hany := any_isBelow_iff.2 ⟨l, hl, hbelow⟩
  rw [Disk.isDirectory, contentAt?]
  cases htop : disk.entries.get? top with
  | none => simp [hany]
  | some content =>
      cases content with
      | directory => simp
      | file bytes =>
          have hfile : disk.isFile top = true := by simp [Disk.isFile, contentAt?, htop]
          rw [hdisk.bottom top (Corpus.mem_keys_of_isFile hfile) hfile l hl] at hbelow
          contradiction

theorem isSome_contentAt? (hl : l ∈ disk.entries.keys) : (disk.contentAt? l).isSome = true := by
  rw [← Assoc.has_iff, Assoc.has] at hl
  obtain ⟨content, hcontent⟩ := Option.isSome_iff_exists.1 hl
  simp [contentAt?, hcontent]

/-- The names of a location lead to it. -/
theorem IsSound.follow (hdisk : disk.IsSound) {names : List String}
    (hl : top ++ names ∈ disk.entries.keys) : disk.follow top names = .ok (top ++ names) := by
  induction names generalizing top with
  | nil => rw [Disk.follow, List.append_nil]
  | cons name rest ih =>
      obtain ⟨hempty, hdot, hup⟩ := hdisk.named _ hl name (by simp)
      have hdirectory : disk.isDirectory top = true :=
        hdisk.isDirectory hl (Location.isBelow_iff.2 ⟨name :: rest, by simp, rfl⟩)
      have hthere : (disk.contentAt? (top ++ [name])).isSome = true := by
        cases rest with
        | nil => exact isSome_contentAt? hl
        | cons next rest =>
            have hbelow : (top ++ name :: next :: rest).isBelow (top ++ [name]) = true :=
              Location.isBelow_iff.2 ⟨next :: rest, by simp, by simp⟩
            have hdirectory := hdisk.isDirectory hl hbelow
            rw [Disk.isDirectory, decide_eq_true_eq] at hdirectory
            rw [hdirectory]
            rfl
      have hadvance : disk.advance top name = .ok (top ++ [name]) := by
        simp [advance, hdirectory, hempty, hdot, hup, Path.step, hthere]
      rw [Disk.follow, hadvance]
      simpa using @ih (top ++ [name]) (by simpa using hl)

theorem IsSound.find_ofLocation (hdisk : disk.IsSound) (hl : l ∈ disk.entries.keys) :
    disk.find cwd (.ofLocation l) = .ok l := by
  have hnames : [] ++ l ∈ disk.entries.keys := hl
  exact hdisk.follow hnames

/-- Every other location of the disk is read as it was. -/
theorem IsSound.read_remove (hdisk : disk.IsSound) (h : disk.IsBottom file)
    (hl : l ∈ disk.entries.keys) (hne : l ≠ file) :
    (disk.remove file).read cwd (.ofLocation l) = disk.read cwd (.ofLocation l) := by
  have hfind : disk.find cwd (.ofLocation l) = .ok l := hdisk.find_ofLocation hl
  have hstart : Path.start cwd (.ofLocation l) ≠ file := h.ne_nil.symm
  have hfind' := (find_remove_eq_ok_iff h hstart).2 ⟨hfind, hne⟩
  rw [read, read, hfind, hfind']
  simp only [contentAt?_remove h, if_neg hne]

end Disk

namespace Corpus

variable {disk : Disk} {file l : Location} {cwd : Location} {paths : List Path} {path : Path}
  {files : List Location}

/-! ### The documents of the disk -/

/-- A path that leads nowhere gives nothing. -/
theorem found_eq_nil (hnone : ∀ l, disk.find cwd path ≠ .ok l) : found disk cwd path = [] := by
  rw [found]
  cases hfind : disk.find cwd path with
  | error fault => rfl
  | ok l => exact absurd hfind (hnone l)

/-- Paths from what is no directory, and has nothing below it, give nothing. -/
theorem found_of_start (hdirectory : disk.isDirectory (path.start cwd) = false)
    (hbelow : disk.filesBelow (path.start cwd) = []) : found disk cwd path = [] := by
  rw [found, Disk.find]
  cases hnames : path.names with
  | nil =>
      have hname : isDocument path.name = false := by
        rw [Path.name, hnames]
        rfl
      simp [Disk.follow, hbelow, hname]
  | cons name rest => simp [Disk.follow, Disk.advance, hdirectory]

/-- What a path gives is the same but for the file. -/
theorem found_remove (h : disk.IsBottom file) (cwd : Location) (path : Path) :
    found (disk.remove file) cwd path = (found disk cwd path).filter (· ≠ file) := by
  by_cases hstart : path.start cwd = file
  · have hdirectory := Disk.isDirectory_of_isFile h.isFile
    have hbelow := Disk.filesBelow_of_isBottom h
    rw [← hstart] at hdirectory hbelow
    rw [found_of_start hdirectory hbelow, found_of_start, List.filter_nil]
    · rw [Disk.isDirectory_remove h, hdirectory]
    · rw [Disk.filesBelow_remove, hbelow, List.filter_nil]
  by_cases hleads : ∃ l, disk.find cwd path = .ok l ∧ l ≠ file
  · obtain ⟨l, hfind, hl⟩ := hleads
    have hfind' := (Disk.find_remove_eq_ok_iff h hstart).2 ⟨hfind, hl⟩
    simp only [found, hfind, hfind', Disk.isFile_remove h, hl, ne_eq, not_false_eq_true,
      decide_true, Bool.true_and, Disk.filesBelow_remove]
    split
    · split <;> simp [hl]
    · simp only [List.filter_filter, Bool.and_comm]
  · -- the path leads nowhere, or to the file, and then nowhere once that is gone
    push Not at hleads
    have hnone : ∀ l, (disk.remove file).find cwd path ≠ .ok l := by
      intro l hok
      obtain ⟨hfind, hl⟩ := (Disk.find_remove_eq_ok_iff h hstart).1 hok
      exact hl (hleads l hfind)
    have honly : ∀ l ∈ found disk cwd path, l = file := by
      intro l hl
      rw [found] at hl
      cases hfind : disk.find cwd path with
      | error fault => simp [hfind] at hl
      | ok top =>
          simp only [hfind, hleads top hfind, h.isFile, if_true] at hl
          split at hl
          · exact List.mem_singleton.1 hl
          · contradiction
    rw [found_eq_nil hnone, eq_comm, List.filter_eq_nil_iff]
    intro l hl
    simp [honly l hl]

theorem candidates_remove (h : disk.IsBottom file) (cwd : Location) (paths : List Path) :
    candidates (disk.remove file) cwd paths =
      (candidates disk cwd paths).filter (· ≠ file) := by
  rw [candidates, candidates, List.filter_flatMap]
  exact List.flatMap_congr fun path _ => found_remove h cwd path

/-- To leave some out and to sort may be done in either order. -/
theorem sortOnce_filter (p : Location → Bool) (ls : List Location) :
    sortOnce (ls.filter p) = (sortOnce ls).filter p := by
  refine eq_of_pairwise_namesLE (pairwise_sortOnce _) ((pairwise_sortOnce ls).filter p)
    (nodup_sortOnce _) ((nodup_sortOnce ls).filter p) ?_
  simp [mem_sortOnce]

/-- Without a markdown file the other documents are found as before. -/
theorem documents_remove (h : disk.IsBottom file) (hmarkdown : isTreeFile (nameOf file) = false)
    (hfiles : documents disk cwd paths = .ok files) :
    documents (disk.remove file) cwd paths = .ok (files.filter (· ≠ file)) := by
  obtain ⟨hstems, rfl⟩ := documents_eq_ok_iff.1 hfiles
  have htrees : ((sortOnce (candidates disk cwd paths)).filter (· ≠ file)).filter
      (fun l => isTreeFile (nameOf l)) =
        (sortOnce (candidates disk cwd paths)).filter fun l => isTreeFile (nameOf l) := by
    rw [List.filter_filter]
    refine List.filter_congr fun l _ => ?_
    by_cases hl : l = file <;> simp [hl, hmarkdown]
  rw [documents_eq_ok_iff, candidates_remove h, sortOnce_filter, htrees]
  refine ⟨fun l hl => hstems l (List.mem_filter.1 hl).1, ?_⟩
  simp only [List.filter_filter, Bool.and_comm]

theorem isFile_of_filesBelow (hdisk : disk.IsSound) {top : Location}
    (hl : l ∈ disk.filesBelow top) : disk.isFile l = true := by
  obtain ⟨⟨l', content⟩, hentry, hsome⟩ := List.mem_filterMap.1 hl
  cases content with
  | directory => cases hsome
  | file bytes =>
      obtain ⟨-, rfl⟩ := by simpa using hsome
      have hget := Assoc.get?_of_mem hdisk.nodup hentry
      simp only at hget
      simp [Disk.isFile, Disk.contentAt?, hget]

theorem isFile_of_documents (hdisk : disk.IsSound)
    (hfiles : documents disk cwd paths = .ok files) (hl : l ∈ files) : disk.isFile l = true := by
  obtain ⟨path, -, hfound⟩ := List.mem_flatMap.1 ((mem_documents_iff hfiles).1 hl).1
  rw [found] at hfound
  cases hfind : disk.find cwd path with
  | error fault => simp [hfind] at hfound
  | ok top =>
      simp only [hfind] at hfound
      split at hfound
      · rename_i htop
        split at hfound
        · rwa [List.mem_singleton.1 hfound]
        · contradiction
      · exact isFile_of_filesBelow hdisk (List.mem_filter.1 hfound).1

/-- A document that is found is a file with nothing below it. -/
theorem isBottom_of_documents (hdisk : disk.IsSound)
    (hfiles : documents disk cwd paths = .ok files) (hfile : file ∈ files) :
    disk.IsBottom file := by
  have hmem := mem_keys_of_documents hfiles hfile
  have hisFile := isFile_of_documents hdisk hfiles hfile
  exact ⟨hisFile, ne_nil_of_isDocument (isDocument_of_mem hfiles hfile),
    hdisk.bottom file hmem hisFile⟩

theorem readDocument_remove (hdisk : disk.IsSound) (h : disk.IsBottom file)
    (hl : l ∈ disk.entries.keys) (hne : l ≠ file) :
    readDocument (disk.remove file) cwd (.ofLocation l) =
      readDocument disk cwd (.ofLocation l) := by
  have htext : readText (disk.remove file) cwd (.ofLocation l) =
      readText disk cwd (.ofLocation l) := by
    rw [readText, readText, hdisk.read_remove h hl hne]
  simp only [readDocument, readTreeDocument, readTree, readMarkdown, htext]

end Corpus

end LinkIndex

import LinkIndex.Corpus.Discovery
import LinkIndex.Proofs.Assoc
import LinkIndex.Proofs.Order
import Mathlib.Data.List.Nodup

/-!
The documents of a disk, as they are found: in order, each once, and all of them
files of the disk. On a disk whose names are names, different files have different
paths, so that a document is known by its path.
-/

namespace LinkIndex

/-- Names as file systems have them: none is empty, and none has a slash. -/
def Location.IsNamed (l : Location) : Prop :=
  ∀ name ∈ l, name ≠ "" ∧ '/' ∉ name.toList

instance (l : Location) : Decidable l.IsNamed :=
  inferInstanceAs (Decidable (∀ name ∈ l, _))

def Disk.WellNamed (disk : Disk) : Prop :=
  ∀ l ∈ disk.entries.keys, l.IsNamed

instance (disk : Disk) : Decidable disk.WellNamed :=
  inferInstanceAs (Decidable (∀ l ∈ _, _))

/-! ### Paths -/

/-- The names can be read off a path, but that the path of no names has an empty one. -/
theorem Location.splitOn_text {l : Location} (hl : l.IsNamed) :
    (String.intercalate "/" l).toList.splitOn '/' =
      if l = [] then [[]] else l.map String.toList := by
  rw [String.toList_intercalate]
  split
  · rename_i hnil
    rw [hnil]
    rfl
  · rename_i hne
    refine List.splitOn_intercalate '/' ?_ (by simpa using hne)
    intro cs hcs
    obtain ⟨name, hname, rfl⟩ := List.mem_map.1 hcs
    exact (hl name hname).2

/-- Different locations have different paths. -/
theorem Location.text_inj {l l' : Location} (hl : l.IsNamed) (hl' : l'.IsNamed)
    (htext : l.text = l'.text) : l = l' := by
  have hnames : String.intercalate "/" l = String.intercalate "/" l' :=
    (String.append_right_inj _).1 htext
  have hsplit := congrArg (fun s => s.toList.splitOn '/') hnames
  simp only [splitOn_text hl, splitOn_text hl'] at hsplit
  have hfull {k : Location} (hk : k.IsNamed) : [[]] ≠ k.map String.toList := by
    intro hempty
    obtain ⟨name, hname, hchars⟩ := List.mem_map.1 (hempty ▸ List.mem_singleton_self [])
    exact (hk name hname).1 (String.toList_eq_nil_iff.1 hchars)
  split at hsplit <;> split at hsplit
  · simp [*]
  · exact absurd hsplit (hfull hl')
  · exact absurd hsplit.symm (hfull hl)
  · exact List.map_injective_iff.2 (fun a b => String.toList_inj.1) hsplit

namespace Corpus

variable {disk : Disk} {cwd : Location} {paths : List Path} {files : List Location}

/-! ### What is found -/

theorem mem_keys_of_isFile {l : Location} (hfile : disk.isFile l) : l ∈ disk.entries.keys := by
  by_contra hnew
  rw [← Assoc.get?_eq_none_iff] at hnew
  simp only [Disk.isFile, Disk.contentAt?, hnew] at hfile
  split at hfile
  · rename_i hcontent
    split at hcontent <;> cases hcontent
  · contradiction

theorem mem_keys_of_filesBelow {l top : Location} (hl : l ∈ disk.filesBelow top) :
    l ∈ disk.entries.keys := by
  obtain ⟨entry, hentry, hsome⟩ := List.mem_filterMap.1 hl
  obtain ⟨l', content⟩ := entry
  cases content with
  | directory => cases hsome
  | file bytes =>
      obtain ⟨-, rfl⟩ := by simpa using hsome
      exact List.mem_map_of_mem hentry

theorem mem_keys_of_found {p : Path} {l : Location} (hl : l ∈ found disk cwd p) :
    l ∈ disk.entries.keys := by
  rw [found] at hl
  cases hfind : disk.find cwd p with
  | error fault => simp [hfind] at hl
  | ok top =>
      simp only [hfind] at hl
      split at hl
      · rename_i hfile
        split at hl
        · rw [List.mem_singleton.1 hl]
          exact mem_keys_of_isFile hfile
        · cases hl
      · exact mem_keys_of_filesBelow (List.mem_of_mem_filter hl)

theorem documents_eq_filter (hfiles : documents disk cwd paths = .ok files) :
    ∃ p, files = (sortOnce (paths.flatMap (found disk cwd))).filter p := by
  rw [documents] at hfiles
  split at hfiles
  · cases hfiles
  · exact ⟨_, (Except.ok.inj hfiles).symm⟩

theorem pairwise_sortOnce (ls : List Location) :
    (sortOnce ls).Pairwise fun a b => namesLE a b :=
  List.pairwise_mergeSort namesLE_trans namesLE_total _

theorem nodup_sortOnce (ls : List Location) : (sortOnce ls).Nodup :=
  (List.mergeSort_perm _ _).nodup_iff.2 (nodup_eraseDups _)

/-- Documents are found in order. -/
theorem pairwise_documents (hfiles : documents disk cwd paths = .ok files) :
    files.Pairwise fun a b => namesLE a b := by
  obtain ⟨p, rfl⟩ := documents_eq_filter hfiles
  exact (pairwise_sortOnce _).filter p

/-- No document is found twice. -/
theorem nodup_documents (hfiles : documents disk cwd paths = .ok files) : files.Nodup := by
  obtain ⟨p, rfl⟩ := documents_eq_filter hfiles
  exact (nodup_sortOnce _).filter p

theorem mem_keys_of_documents (hfiles : documents disk cwd paths = .ok files) {l : Location}
    (hl : l ∈ files) : l ∈ disk.entries.keys := by
  obtain ⟨p, rfl⟩ := documents_eq_filter hfiles
  have hsorted := (List.mergeSort_perm _ _).mem_iff.1 (List.mem_of_mem_filter hl)
  obtain ⟨path, -, hfound⟩ := List.mem_flatMap.1 (List.mem_eraseDups.1 hsorted)
  exact mem_keys_of_found hfound

/-- No two documents of a disk have the same path. -/
theorem nodup_texts (hdisk : disk.WellNamed) (hfiles : documents disk cwd paths = .ok files) :
    (files.map Location.text).Nodup := by
  refine List.Nodup.map_on ?_ (nodup_documents hfiles)
  intro l hl l' hl' htext
  exact Location.text_inj (hdisk l (mem_keys_of_documents hfiles hl))
    (hdisk l' (mem_keys_of_documents hfiles hl')) htext

end Corpus

end LinkIndex

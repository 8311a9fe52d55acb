import LinkIndex.Proofs.Corpus.Search

/-!
Markdown files whose tree file lies beside them. Where their directory is searched the tree
file is found with them and stands in for them. Only a markdown file to which a path leads is
kept, and that where nothing else leads to its tree file.
-/

namespace LinkIndex.Corpus

variable {disk : Disk} {here l t dir : Location} {paths : List Path} {files : List Location}

/-- One of the paths leads to a location. -/
def IsGiven (disk : Disk) (here : Location) (paths : List Path) (l : Location) : Prop :=
  ∃ path ∈ paths, disk.find here path = .ok l

/-- A directory is searched for documents: one of the paths leads to it, or to a directory from
which names that are searched lead to it. -/
def IsSearched (disk : Disk) (here : Location) (paths : List Path) (dir : Location) : Prop :=
  ∃ top dirs, IsGiven disk here paths top ∧ disk.isDirectory top = true ∧
    (∀ d ∈ dirs, ¬IsSkippedName d) ∧ dir = top ++ dirs

/-- Documents are found by themselves or by their directory. -/
theorem isFound_iff : IsFound disk here paths l ↔
    IsDocumentFile disk l ∧
      (IsGiven disk here paths l ∨ IsSearched disk here paths l.dropLast) := by
  constructor
  · rintro (⟨hpath, hleads, hl⟩ | ⟨hpath, hleads, htop, hdirs, hl⟩)
    · exact ⟨hl, .inl ⟨_, hpath, hleads⟩⟩
    · refine ⟨hl, .inr ⟨_, _, ⟨_, hpath, hleads⟩, htop, hdirs, ?_⟩⟩
      rw [List.dropLast_concat]
  · rintro ⟨hl, ⟨path, hpath, hleads⟩ | ⟨top, dirs, ⟨path, hpath, hleads⟩, htop, hdirs, hdir⟩⟩
    · exact .itself hpath hleads hl
    · have hname : l = top ++ dirs ++ [nameOf l] := by
        rw [← hdir, dropLast_append_nameOf (ne_nil_of_isDocument (isDocumentFile_iff.1 hl).2)]
      rw [hname] at hl ⊢
      exact .below hpath hleads htop hdirs hl

theorem IsBeside.dropLast_eq (h : IsBeside t l) : t.dropLast = l.dropLast := by
  obtain ⟨dir, s, rfl, rfl | rfl⟩ := h <;> rw [List.dropLast_concat, List.dropLast_concat]

/-- A markdown file is told from tree files by the last character of its name. -/
theorem IsBeside.not_isTreeFile (h : IsBeside t l) : ¬Corpus.isTreeFile (nameOf l) = true := by
  rw [isTreeFile_iff]
  rintro ⟨s', hname⟩
  have hlast := congrArg (fun name : String => name.toList.getLast?) hname
  obtain ⟨dir, s, -, rfl | rfl⟩ := h <;>
    simp [nameOf_concat, String.toList_append, List.getLast?_append] at hlast

/-- No two tree files have one stem. -/
theorem eq_of_stem_eq_stem {t' : Location} (ht : isTreeFile (nameOf t) = true)
    (ht' : isTreeFile (nameOf t') = true) (hstem : stem t' = stem t) : t' = t := by
  have hfull {k : Location} (hk : isTreeFile (nameOf k) = true) :
      k = withExtension (stem k) ".mdast.json" := by
    have hdocument : isDocument (nameOf k) = true := by rw [isDocument, hk, Bool.or_true]
    obtain ⟨e, -, heq, he⟩ := exists_eq_withExtension hdocument
    rwa [he.1 hk] at heq
  rw [hfull ht', hstem, ← hfull ht]

/-- A markdown file beside its tree file is kept where it is found and the tree file is not. -/
theorem mem_documents_beside_iff (hdisk : disk.IsSound) (hhere : disk.isDirectory here = true)
    (hfiles : documents disk here paths = .ok files) (hbeside : IsBeside t l) :
    l ∈ files ↔ IsFound disk here paths l ∧ ¬IsFound disk here paths t := by
  have htree := hbeside.isTreeFile
  rw [mem_documents_iff hfiles, or_iff_right hbeside.not_isTreeFile,
    ← mem_candidates_iff hdisk hhere, ← mem_candidates_iff hdisk hhere]
  refine and_congr_right fun hl => ?_
  have hstem : stem t = stem l :=
    (stem_eq_stem_iff_isBeside htree (isDocument_of_mem_candidates hl) hbeside.not_isTreeFile).2
      hbeside
  constructor
  · exact fun hnone hfound => hnone t hfound htree hstem
  · intro hnot t' hfound htree' hstem'
    obtain rfl := eq_of_stem_eq_stem htree htree' (hstem'.trans hstem.symm)
    exact hnot hfound

/-- Of the markdown files with a tree file beside them on the disk, a search gives just those to
which a path leads, where no path leads to the tree file and their directory is not searched.
Where paths lead to directories only, it gives none of them. -/
theorem kept_beside_iff (hdisk : disk.IsSound) (hhere : disk.isDirectory here = true)
    (hfiles : documents disk here paths = .ok files) :
    (∀ l t, IsBeside t l → disk.isFile t = true →
      (l ∈ files ↔ IsDocumentFile disk l ∧ IsGiven disk here paths l ∧
        ¬IsGiven disk here paths t ∧ ¬IsSearched disk here paths l.dropLast)) ∧
    ((∀ l, IsGiven disk here paths l → disk.isDirectory l = true) →
      ∀ l ∈ files, ∀ t, IsBeside t l → disk.isFile t = false) := by
  have hkept (l t : Location) (hbeside : IsBeside t l) (ht : disk.isFile t = true) :
      l ∈ files ↔ IsDocumentFile disk l ∧ IsGiven disk here paths l ∧
        ¬IsGiven disk here paths t ∧ ¬IsSearched disk here paths l.dropLast := by
    have hfile : IsDocumentFile disk t := ⟨ht, .inr (isTreeFile_iff.1 hbeside.isTreeFile)⟩
    rw [mem_documents_beside_iff hdisk hhere hfiles hbeside, isFound_iff, isFound_iff,
      hbeside.dropLast_eq]
    tauto
  refine ⟨hkept, ?_⟩
  intro hdirectories l hl t hbeside
  by_contra ht
  obtain ⟨hdocument, hgiven, -⟩ := (hkept l t hbeside (by simpa using ht)).1 hl
  have hdirectory := hdirectories l hgiven
  rw [Disk.isDirectory_of_isFile hdocument.isFile] at hdirectory
  cases hdirectory

def pageFiles : Disk where
  entries := [(["s", "page.md"], .file []), (["s", "page.mdast.json"], .file [])]

theorem isBeside_page : IsBeside ["s", "page.mdast.json"] ["s", "page.md"] :=
  ⟨["s"], "page", rfl, .inl rfl⟩

theorem documents_pageFiles :
    documents pageFiles ["s"] [.ofString "page.md"] = .ok [["s", "page.md"]] := by
  have hcandidates : candidates pageFiles ["s"] [.ofString "page.md"] = [["s", "page.md"]] := by
    decide
  have hsorted : sortOnce [["s", "page.md"]] = [["s", "page.md"]] :=
    List.mergeSort_of_pairwise (by decide)
  rw [documents_eq_ok_iff, hcandidates, hsorted]
  decide

/-- Where only the markdown file is given, it is kept beside its tree file. -/
theorem kept_beside_sidecar :
    ∃ files, documents pageFiles ["s"] [.ofString "page.md"] = .ok files ∧
      ∃ l ∈ files, IsMarkdownName (nameOf l) ∧
        ∃ t, IsBeside t l ∧ pageFiles.isFile t = true :=
  ⟨_, documents_pageFiles, ["s", "page.md"], by simp, ⟨"page", by decide, .inl rfl⟩,
    _, isBeside_page, by decide⟩

/-- It is kept because its directory is not searched. -/
theorem kept_beside_iff_page :
    (pageFiles.IsSound ∧ pageFiles.isDirectory ["s"] = true) ∧
      documents pageFiles ["s"] [.ofString "page.md"] = .ok [["s", "page.md"]] ∧
      (IsBeside ["s", "page.mdast.json"] ["s", "page.md"] ∧
        pageFiles.isFile ["s", "page.mdast.json"] = true) ∧
      ¬IsSearched pageFiles ["s"] [.ofString "page.md"] ["s"] := by
  have hdisk : pageFiles.IsSound := by decide
  have hhere : pageFiles.isDirectory ["s"] = true := by decide
  have htree : pageFiles.isFile ["s", "page.mdast.json"] = true := by decide
  obtain ⟨hkept, -⟩ := kept_beside_iff hdisk hhere documents_pageFiles
  obtain ⟨-, -, -, hsearched⟩ := (hkept _ _ isBeside_page htree).1 (by simp)
  exact ⟨⟨hdisk, hhere⟩, documents_pageFiles, ⟨isBeside_page, htree⟩, hsearched⟩

end LinkIndex.Corpus

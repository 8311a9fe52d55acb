import LinkIndex.Proofs.Corpus.Search

/-!
When a search for documents is refused. Only two names of tree files, the suffix itself and
the suffix behind a dot, leave no name to look for beside them. A disk without such files
answers every search; on any other disk a search is refused just where it meets one of
them, and what is said names what is left of its name.
-/

namespace LinkIndex.Corpus

variable {disk : Disk} {here l : Location} {paths : List Path} {e : InvalidName}

/-- A refused search met a tree file that has no stem. -/
theorem exists_bare_of_error (h : documents disk here paths = .error e) :
    ∃ l ∈ candidates disk here paths, IsBareSuffix (nameOf l) ∧ e = ⟨stemName (nameOf l)⟩ := by
  rw [documents] at h
  split at h
  · rename_i fault hstems
    obtain rfl := Except.error.inj h
    rw [treeStems] at hstems
    split at hstems
    · rename_i l hfind
      obtain rfl := Except.error.inj hstems
      obtain ⟨hmem, htree⟩ := List.mem_filter.1 (List.mem_of_find?_eq_some hfind)
      have hname : ¬isFileName (stemName (nameOf l)) = true := by
        simpa using List.find?_some hfind
      refine ⟨l, mem_sortOnce.1 hmem, ?_, rfl⟩
      by_contra hstem
      exact hname ((isFileName_stemName_iff htree).2 hstem)
    · cases hstems
  · cases h

/-- What is left of the names that are refused. -/
theorem stemName_of_isBareSuffix {name : String} (h : IsBareSuffix name) :
    (stemName name = "" ∨ stemName name = ".") ∧ name = stemName name ++ ".mdast.json" := by
  rcases h with rfl | rfl <;> decide

/-- A file is found where its own path is given. -/
theorem isFound_ofLocation (hdisk : disk.IsSound) (hl : IsDocumentFile disk l) :
    IsFound disk here [.ofLocation l] l :=
  .itself (List.mem_singleton_self _) (hdisk.find_ofLocation (mem_keys_of_isFile hl.isFile)) hl

/-- A search is refused just where it finds a tree file that has no stem. -/
theorem exists_error_iff_isFound (hdisk : disk.IsSound) (hhere : disk.isDirectory here = true) :
    (∃ e, documents disk here paths = .error e) ↔
      ∃ l, IsFound disk here paths l ∧ IsBareSuffix (nameOf l) := by
  rw [exists_error_iff]
  simp only [mem_candidates_iff hdisk hhere]

/-- What is said of a refused search, and the file that it is said of. -/
theorem message_of_error (hdisk : disk.IsSound) (hhere : disk.isDirectory here = true)
    (h : documents disk here paths = .error e) :
    (e.message = "Invalid name ''" ∨ e.message = "Invalid name '.'") ∧
      ∃ l, IsFound disk here paths l ∧ nameOf l = e.name ++ ".mdast.json" := by
  obtain ⟨l, hl, hbare, rfl⟩ := exists_bare_of_error h
  obtain ⟨hleft, hname⟩ := stemName_of_isBareSuffix hbare
  refine ⟨?_, l, (mem_candidates_iff hdisk hhere).1 hl, hname⟩
  rcases hleft with hempty | hdot
  · left
    rw [hempty]
    rfl
  · right
    rw [hdot]
    decide +kernel

/-- Each tree file without a stem keeps some search from being answered, the one from the top that
is given the file. -/
theorem exists_error_of_bare (hdisk : disk.IsSound) (hfile : disk.isFile l = true)
    (hbare : IsBareSuffix (nameOf l)) :
    disk.isDirectory [] = true ∧ ∃ e, documents disk [] [.ofLocation l] = .error e := by
  have hlow : l.isBelow [] = true := by
    refine Location.isBelow_iff.2 ⟨l, ?_, rfl⟩
    rintro rfl
    rcases hbare with hname | hname <;> revert hname <;> decide
  have htop := hdisk.isDirectory (mem_keys_of_isFile hfile) hlow
  have hdocument : IsDocumentFile disk l :=
    ⟨hfile, .inr (isTreeFile_iff.1 (isTreeFile_of_isBareSuffix hbare))⟩
  have hfound : IsFound disk [] [.ofLocation l] l := isFound_ofLocation hdisk hdocument
  exact ⟨htop, (exists_error_iff_isFound hdisk htop).2 ⟨l, hfound, hbare⟩⟩

/-- Every search of a disk is answered just where no file on it is named by the suffix of tree
files alone, or by that behind a dot. A search of any disk is refused just where it finds such
a file, with what is left of the name in what is said. -/
theorem documents_answer_iff (hdisk : disk.IsSound) :
    ((∀ here, disk.isDirectory here = true → ∀ paths,
        ∃ files, documents disk here paths = .ok files) ↔
      ∀ l, disk.isFile l = true → nameOf l ≠ ".mdast.json" ∧ nameOf l ≠ "..mdast.json") ∧
    ∀ here, disk.isDirectory here = true → ∀ paths,
      ((∃ e, documents disk here paths = .error e) ↔
        ∃ l, IsFound disk here paths l ∧ IsBareSuffix (nameOf l)) ∧
      ∀ e, documents disk here paths = .error e →
        (e.message = "Invalid name ''" ∨ e.message = "Invalid name '.'") ∧
        ∃ l, IsFound disk here paths l ∧ nameOf l = e.name ++ ".mdast.json" := by
  refine ⟨⟨?named, ?answered⟩, fun here hhere paths =>
    ⟨exists_error_iff_isFound hdisk hhere, fun e => message_of_error hdisk hhere⟩⟩
  case named =>
    intro hall l hfile
    rw [← not_or]
    intro hbare
    obtain ⟨htop, e, he⟩ := exists_error_of_bare hdisk hfile hbare
    obtain ⟨files, hfiles⟩ := hall [] htop [.ofLocation l]
    rw [he] at hfiles
    cases hfiles
  case answered =>
    intro hnone here hhere paths
    cases hdocuments : documents disk here paths with
    | ok files => exact ⟨files, rfl⟩
    | error e =>
        obtain ⟨l, hl, hbare⟩ := (exists_error_iff_isFound hdisk hhere).1 ⟨e, hdocuments⟩
        obtain ⟨hplain, hdotted⟩ := hnone l hl.isDocumentFile.isFile
        exact absurd hbare (not_or.2 ⟨hplain, hdotted⟩)

/-- A tree file that is named by its suffix alone, and a markdown file beside it. -/
def bareFiles : Disk where
  entries := [(["s", ".mdast.json"], .file []), (["s", "a.md"], .file [])]

theorem isSound_bareFiles : bareFiles.IsSound := by
  decide

theorem isDirectory_bareFiles : bareFiles.isDirectory ["s"] = true := by
  decide

/-- The one file keeps the search from answering, though the other is a document like any. -/
theorem no_answer_bareFiles :
    (bareFiles.IsSound ∧ bareFiles.isDirectory ["s"] = true) ∧
      IsFound bareFiles ["s"] [.ofString "."] ["s", "a.md"] ∧
      ¬∃ files, documents bareFiles ["s"] [.ofString "."] = .ok files := by
  refine ⟨⟨isSound_bareFiles, isDirectory_bareFiles⟩, ?_, ?_⟩
  · rw [← mem_candidates_iff isSound_bareFiles isDirectory_bareFiles]
    decide
  · rintro ⟨files, hfiles⟩
    refine (documents_eq_ok_iff.1 hfiles).1 ["s", ".mdast.json"] ?_ (.inl rfl)
    decide

/-- What is said when the file is met, and that without it every search is answered. -/
theorem documents_answer_iff_bareFiles :
    (bareFiles.IsSound ∧ bareFiles.isDirectory ["s"] = true) ∧
      (∃ e, documents bareFiles ["s"] [.ofString "."] = .error e ∧
        (e.message = "Invalid name ''" ∨ e.message = "Invalid name '.'")) ∧
      (bareFiles.remove ["s", ".mdast.json"]).IsSound ∧
      ∃ files,
        documents (bareFiles.remove ["s", ".mdast.json"]) ["s"] [.ofString "."] = .ok files := by
  obtain ⟨-, hsearch⟩ := documents_answer_iff isSound_bareFiles
  obtain ⟨hrefused, hsaid⟩ := hsearch ["s"] isDirectory_bareFiles [.ofString "."]
  have hmet : IsFound bareFiles ["s"] [.ofString "."] ["s", ".mdast.json"] := by
    rw [← mem_candidates_iff isSound_bareFiles isDirectory_bareFiles]
    decide
  obtain ⟨e, he⟩ := hrefused.2 ⟨_, hmet, .inl rfl⟩
  have hdisk : (bareFiles.remove ["s", ".mdast.json"]).IsSound := by decide
  have hplain : ∀ l ∈ (bareFiles.remove ["s", ".mdast.json"]).entries.keys,
      nameOf l ≠ ".mdast.json" ∧ nameOf l ≠ "..mdast.json" := by
    decide
  refine ⟨⟨isSound_bareFiles, isDirectory_bareFiles⟩, ⟨e, he, (hsaid e he).1⟩, hdisk, ?_⟩
  exact (documents_answer_iff hdisk).1.2 (fun l hfile => hplain l (mem_keys_of_isFile hfile))
    ["s"] (by decide) _

end LinkIndex.Corpus

import LinkIndex.Proofs.Corpus.Removal
import Mathlib.Tactic.Tauto

/-!
What a search for documents finds, said without the search. A document is found where a path
leads to it, or to a directory from which names that are searched lead to it. Of what is
found, all is kept but the markdown files beside a tree file of their stem, and it is kept in
order.
-/

namespace LinkIndex

namespace Corpus

variable {name : String} {l t : Location}

/-! ### Names -/

/-- The name of a markdown file: its extension, and something in front of it. -/
def IsMarkdownName (name : String) : Prop :=
  ∃ s, s ≠ "" ∧ (name = s ++ ".md" ∨ name = s ++ ".mdx")

def IsTreeName (name : String) : Prop :=
  ∃ s, name = s ++ ".mdast.json"

/-- The name of a directory that holds no documents: one of tools, or a hidden one. -/
def IsSkippedName (name : String) : Prop :=
  name ∈ [".git", "node_modules", "__pycache__"] ∨ ∃ s, name = "." ++ s

/-- A dot with something behind it is an extension where something stands in front. -/
theorem extension_of_append {front e : List Char} (hname : name.toList = front ++ '.' :: e)
    (hdot : '.' ∉ e) (hne : e ≠ []) :
    extension name = if front = [] then "" else String.ofList ('.' :: e) := by
  have hbehind : (name.toList.reverse.takeWhile (· ≠ '.')).reverse = e := by
    have hall : ∀ c ∈ e.reverse, decide (c ≠ '.') = true := by
      intro c hc
      simpa using ne_of_mem_of_not_mem (List.mem_reverse.1 hc) hdot
    rw [hname, List.reverse_append, List.reverse_cons, List.append_assoc,
      List.takeWhile_append_of_pos hall]
    simp
  have hlength : name.length = front.length + e.length + 1 := by
    rw [← String.length_toList, hname, List.length_append, List.length_cons]
    omega
  have hfront : front = [] ↔ front.length = 0 := List.length_eq_zero_iff.symm
  rw [extension, hbehind]
  split
  · rename_i hnone
    rw [if_pos]
    rcases hnone with hnil | hzero | hshort
    · exact absurd hnil hne
    · rw [hfront]
      omega
    · omega
  · rename_i hsome
    rw [if_neg]
    rw [not_or, not_or] at hsome
    rw [hfront]
    omega

theorem extension_eq_iff {e : String} {behind : List Char} (he : e.toList = '.' :: behind)
    (hdot : '.' ∉ behind) (hne : behind ≠ []) :
    extension name = e ↔ ∃ s, s ≠ "" ∧ name = s ++ e := by
  have htext : String.ofList ('.' :: behind) = e := by rw [← he, String.ofList_toList]
  constructor
  · intro hext
    have hsome : extension name ≠ "" := by
      rw [hext]
      rintro rfl
      cases he
    obtain ⟨front, hfront⟩ := exists_append_extension hsome
    refine ⟨String.ofList front, ?_, ?_⟩
    · intro hempty
      have hnil : front = [] := by
        simpa using congrArg String.toList hempty
      rw [hext, he] at hfront
      rw [extension_of_append hfront hdot hne, if_pos hnil] at hsome
      exact hsome rfl
    · rw [← String.toList_inj, hfront, hext, String.toList_append, String.toList_ofList]
  · rintro ⟨s, hs, rfl⟩
    have hchars : (s ++ e).toList = s.toList ++ '.' :: behind := by
      rw [String.toList_append, he]
    have hfront : s.toList ≠ [] := fun hnil => hs (String.toList_eq_nil_iff.1 hnil)
    rw [extension_of_append hchars hdot hne, if_neg hfront, htext]

theorem isTreeFile_iff : isTreeFile name = true ↔ IsTreeName name := by
  rw [isTreeFile, Text.endsWith, Option.isSome_iff_exists]
  constructor
  · rintro ⟨front, hfront⟩
    refine ⟨String.ofList front, ?_⟩
    rw [← String.toList_inj, String.toList_append, String.toList_ofList]
    exact Text.dropSuffix?_eq_some_iff.1 hfront
  · rintro ⟨s, hname⟩
    refine ⟨s.toList, Text.dropSuffix?_eq_some_iff.2 ?_⟩
    rw [hname]
    exact String.toList_append

/-- The names of documents are those of markdown files and of tree files. -/
theorem isDocument_iff : isDocument name = true ↔ IsMarkdownName name ∨ IsTreeName name := by
  have hmarkdown : markdownExtensions.contains (extension name) = true ↔ IsMarkdownName name := by
    have hmd : extension name = ".md" ↔ ∃ s, s ≠ "" ∧ name = s ++ ".md" :=
      extension_eq_iff rfl (by decide) (by decide)
    have hmdx : extension name = ".mdx" ↔ ∃ s, s ≠ "" ∧ name = s ++ ".mdx" :=
      extension_eq_iff rfl (by decide) (by decide)
    rw [List.contains_iff_mem, markdownExtensions, List.mem_pair, hmd, hmdx, IsMarkdownName,
      ← exists_or]
    simp only [and_or_left]
  rw [isDocument, Bool.or_eq_true, hmarkdown, isTreeFile_iff]

theorem isSkipped_iff : isSkipped name = true ↔ IsSkippedName name := by
  have hdot : Text.startsWith ['.'] name.toList = true ↔ ∃ s, name = "." ++ s := by
    rw [Text.startsWith, Option.isSome_iff_exists]
    constructor
    · rintro ⟨rest, hrest⟩
      refine ⟨String.ofList rest, ?_⟩
      rw [← String.toList_inj, Text.dropPrefix?_eq_some_iff.1 hrest]
      simp
    · rintro ⟨s, rfl⟩
      exact ⟨s.toList, Text.dropPrefix?_eq_some_iff.2 (by simp)⟩
  rw [isSkipped, Bool.or_eq_true, hdot, List.contains_iff_mem, IsSkippedName]

/-- One document is a tree file, the other one a markdown file of its stem beside it. -/
def IsBeside (t l : Location) : Prop :=
  ∃ dir s, t = dir ++ [s ++ ".mdast.json"] ∧ (l = dir ++ [s ++ ".md"] ∨ l = dir ++ [s ++ ".mdx"])

theorem nameOf_concat (dir : Location) (name : String) : nameOf (dir ++ [name]) = name := by
  rw [nameOf, List.getLast?_concat, Option.getD_some]

/-- The stem of a document is its directory and its name without the extension. -/
theorem stem_concat {dir : Location} {s e : String} (he : e.toList ∈ Slug.documentExtensions)
    (h : isDocument (s ++ e) = true) : stem (dir ++ [s ++ e]) = dir ++ [s] := by
  have hstem : stemName (s ++ e) = String.ofList s.toList :=
    stemName_eq_of_append h he String.toList_append
  rw [stem, nameOf_concat, List.dropLast_concat, hstem, String.ofList_toList]

theorem IsBeside.isTreeFile (h : IsBeside t l) : isTreeFile (nameOf t) = true := by
  obtain ⟨dir, s, rfl, -⟩ := h
  rw [nameOf_concat, isTreeFile_iff]
  exact ⟨s, rfl⟩

theorem stem_eq_stem_iff_isBeside (htree : isTreeFile (nameOf t) = true)
    (hdocument : isDocument (nameOf l) = true) (hmarkdown : ¬isTreeFile (nameOf l) = true) :
    stem t = stem l ↔ IsBeside t l := by
  have hdocument' : isDocument (nameOf t) = true := by
    rw [isDocument, htree, Bool.or_true]
  constructor
  · intro hstem
    obtain ⟨e, -, heq, he⟩ := exists_eq_withExtension hdocument'
    obtain ⟨e', hmem, heq', he'⟩ := exists_eq_withExtension hdocument
    rw [he.1 htree, hstem] at heq
    refine ⟨(stem l).dropLast, nameOf (stem l), heq, ?_⟩
    have hother : e' ≠ ".mdast.json" := fun hsuffix => hmarkdown (he'.2 hsuffix)
    obtain rfl | rfl : e' = ".mdx" ∨ e' = ".md" := by simpa [hother] using hmem
    · exact .inr heq'
    · exact .inl heq'
  · rintro ⟨dir, s, rfl, rfl | rfl⟩ <;> rw [nameOf_concat] at hdocument hdocument' <;>
      rw [stem_concat (by decide) hdocument, stem_concat (by decide) hdocument']

/-! ### Where paths lead -/

variable {disk : Disk} {here top : Location} {path : Path} {paths : List Path}

theorem isDirectory_of_append (hdisk : disk.IsSound) {names : List String}
    (h : disk.isDirectory (top ++ names) = true) : disk.isDirectory top = true := by
  rcases eq_or_ne names [] with rfl | hnames
  · rwa [List.append_nil] at h
  have hbelow : Location.isBelow (top ++ names) top = true :=
    Location.isBelow_iff.2 ⟨names, hnames, rfl⟩
  by_cases hmem : top ++ names ∈ disk.entries.keys
  · exact hdisk.isDirectory hmem hbelow
  · -- what has no entry of its own is a directory for what lies below it
    rw [Disk.isDirectory, Disk.contentAt?, (Assoc.get?_eq_none_iff _ _).2 hmem] at h
    have hany : disk.entries.any (·.1.isBelow (top ++ names)) = true := by
      simpa [hnames] using h
    obtain ⟨l, hl, hlow⟩ := Disk.any_isBelow_iff.1 hany
    obtain ⟨more, -, rfl⟩ := Location.isBelow_iff.1 hlow
    exact hdisk.isDirectory hl
      (Location.isBelow_iff.2 ⟨names ++ more, by simp [hnames], List.append_assoc ..⟩)

/-- A step that ends at a file went down to its name. -/
theorem nameOf_of_advance (hdisk : disk.IsSound) {piece : String}
    (hadvance : disk.advance top piece = .ok l) (hfile : disk.isFile l = true) :
    nameOf l = piece := by
  have hnot : disk.isDirectory l ≠ true := by
    rw [Disk.isDirectory_of_isFile hfile]
    exact Bool.false_ne_true
  rw [Disk.advance] at hadvance
  split at hadvance
  · cases hadvance
  rename_i hdirectory
  have htop : disk.isDirectory top = true := by simpa using hdirectory
  split at hadvance
  · obtain rfl := Except.ok.inj hadvance
    exact absurd htop hnot
  simp only at hadvance
  split at hadvance
  · obtain rfl := Except.ok.inj hadvance
    by_cases hup : piece = ".."
    · refine absurd ?_ hnot
      rw [Path.step, if_pos hup]
      rcases eq_or_ne top [] with rfl | hne
      · exact htop
      · rw [← List.dropLast_concat_getLast hne] at htop
        exact isDirectory_of_append hdisk htop
    · rw [Path.step, if_neg hup, nameOf_concat]
  · cases hadvance

theorem nameOf_of_find_file (hdisk : disk.IsSound) (hhere : disk.isDirectory here = true)
    (hleads : disk.find here path = .ok l) (hfile : disk.isFile l = true) :
    nameOf l = path.name := by
  rcases eq_or_ne path.names [] with hnames | hnames
  · have hstart : disk.isDirectory (path.start here) = true := by
      rw [Path.start]
      split
      · rw [← List.nil_append here] at hhere
        exact isDirectory_of_append hdisk hhere
      · exact hhere
    rw [Disk.find, hnames] at hleads
    obtain rfl := Except.ok.inj hleads
    rw [Disk.isDirectory_of_isFile hfile] at hstart
    cases hstart
  · have hlast : path.names.dropLast ++ [path.name] = path.names := dropLast_append_nameOf hnames
    rw [Disk.find, ← hlast] at hleads
    obtain ⟨prior, hadvance⟩ := exists_advance_of_follow hleads
    exact nameOf_of_advance hdisk hadvance hfile

theorem mem_filesBelow_iff (hdisk : disk.IsSound) :
    l ∈ disk.filesBelow top ↔ disk.isFile l = true ∧ l.isBelow top = true := by
  constructor
  · intro hl
    refine ⟨isFile_of_filesBelow hdisk hl, ?_⟩
    obtain ⟨⟨l', content⟩, -, hsome⟩ := List.mem_filterMap.1 hl
    cases content with
    | directory => cases hsome
    | file bytes =>
        obtain ⟨hbelow, rfl⟩ := by simpa using hsome
        exact hbelow
  · rintro ⟨hfile, hbelow⟩
    -- only directories are there without an entry of their own
    obtain ⟨content, hget⟩ : ∃ content, disk.entries.get? l = some content := by
      rw [← Option.isSome_iff_exists]
      exact (Assoc.has_iff _ _).2 (mem_keys_of_isFile hfile)
    obtain ⟨bytes, rfl⟩ : ∃ bytes, content = .file bytes := by
      cases content with
      | directory => simp [Disk.isFile, Disk.contentAt?, hget] at hfile
      | file bytes => exact ⟨bytes, rfl⟩
    exact List.mem_filterMap.2 ⟨_, Assoc.mem_of_get? hget, by simp [hbelow]⟩

/-! ### What is found -/

structure IsDocumentFile (disk : Disk) (l : Location) : Prop where
  isFile : disk.isFile l = true
  named : IsMarkdownName (nameOf l) ∨ IsTreeName (nameOf l)

/-- A document is found from paths: one of them leads to it, or to a directory from which names
that are searched lead to it. -/
inductive IsFound (disk : Disk) (here : Location) (paths : List Path) : Location → Prop
  | itself {path : Path} {l : Location} (hpath : path ∈ paths)
      (hleads : disk.find here path = .ok l) (hl : IsDocumentFile disk l) :
      IsFound disk here paths l
  | below {path : Path} {top dirs : Location} {name : String} (hpath : path ∈ paths)
      (hleads : disk.find here path = .ok top) (htop : disk.isDirectory top = true)
      (hdirs : ∀ d ∈ dirs, ¬IsSkippedName d)
      (hl : IsDocumentFile disk (top ++ dirs ++ [name])) :
      IsFound disk here paths (top ++ dirs ++ [name])

theorem isDocumentFile_iff :
    IsDocumentFile disk l ↔ disk.isFile l = true ∧ isDocument (nameOf l) = true := by
  rw [isDocument_iff]
  exact ⟨fun h => ⟨h.isFile, h.named⟩, fun h => ⟨h.1, h.2⟩⟩

theorem IsFound.isDocumentFile (h : IsFound disk here paths l) : IsDocumentFile disk l := by
  cases h <;> assumption

theorem any_isSkipped_eq_false_iff {dirs : Location} :
    dirs.any isSkipped = false ↔ ∀ d ∈ dirs, ¬IsSkippedName d := by
  simp only [List.any_eq_false, isSkipped_iff]

theorem between_concat (top dirs : Location) (name : String) :
    between top (top ++ dirs ++ [name]) = dirs := by
  rw [between, List.append_assoc, List.drop_left, List.dropLast_concat]

theorem isFound_of_mem_found (hdisk : disk.IsSound) (hpath : path ∈ paths)
    (hl : l ∈ found disk here path) : IsFound disk here paths l := by
  have hdocument := isDocument_of_found hl
  rw [found] at hl
  cases hleads : disk.find here path with
  | error fault => simp [hleads] at hl
  | ok top =>
      simp only [hleads] at hl
      split at hl
      · rename_i hfile
        split at hl
        · obtain rfl := List.mem_singleton.1 hl
          exact .itself hpath hleads (isDocumentFile_iff.2 ⟨hfile, hdocument⟩)
        · cases hl
      · obtain ⟨hmem, hsearched⟩ := List.mem_filter.1 hl
        obtain ⟨hfile, hbelow⟩ := (mem_filesBelow_iff hdisk).1 hmem
        have htop := hdisk.isDirectory (mem_keys_of_isFile hfile) hbelow
        -- the names below the directory: those that are searched, and that of the file
        obtain ⟨r, hr, rfl⟩ := Location.isBelow_iff.1 hbelow
        obtain ⟨dirs, name, rfl⟩ : ∃ dirs name, r = dirs ++ [name] :=
          ⟨r.dropLast, r.getLast hr, (List.dropLast_concat_getLast hr).symm⟩
        rw [← List.append_assoc] at hfile hdocument hsearched ⊢
        rw [between_concat, Bool.and_eq_true, Bool.not_eq_true'] at hsearched
        exact .below hpath hleads htop (any_isSkipped_eq_false_iff.1 hsearched.2)
          (isDocumentFile_iff.2 ⟨hfile, hdocument⟩)

theorem mem_candidates_of_isFound (hdisk : disk.IsSound) (hhere : disk.isDirectory here = true)
    (hl : IsFound disk here paths l) : l ∈ candidates disk here paths := by
  rw [candidates, List.mem_flatMap]
  cases hl with
  | itself hpath hleads hl =>
      refine ⟨_, hpath, ?_⟩
      have hname := nameOf_of_find_file hdisk hhere hleads hl.isFile
      have hdocument := (isDocumentFile_iff.1 hl).2
      rw [hname] at hdocument
      simp [found, hleads, hl.isFile, hdocument]
  | @below path top dirs name hpath hleads htop hdirs hl =>
      refine ⟨path, hpath, ?_⟩
      obtain ⟨hfile, hdocument⟩ := isDocumentFile_iff.1 hl
      have hnot : ¬disk.isFile top = true := by
        intro htop'
        rw [Disk.isDirectory_of_isFile htop'] at htop
        cases htop
      have hbelow : Location.isBelow (top ++ dirs ++ [name]) top = true :=
        Location.isBelow_iff.2 ⟨dirs ++ [name], by simp, List.append_assoc ..⟩
      simp only [found, hleads, if_neg hnot]
      refine List.mem_filter.2 ⟨(mem_filesBelow_iff hdisk).2 ⟨hfile, hbelow⟩, ?_⟩
      rw [hdocument, between_concat, any_isSkipped_eq_false_iff.2 hdirs]
      rfl

theorem mem_candidates_iff (hdisk : disk.IsSound) (hhere : disk.isDirectory here = true) :
    l ∈ candidates disk here paths ↔ IsFound disk here paths l := by
  constructor
  · intro hl
    obtain ⟨path, hpath, hfound⟩ := List.mem_flatMap.1 hl
    exact isFound_of_mem_found hdisk hpath hfound
  · exact mem_candidates_of_isFound hdisk hhere

/-- Of all candidates only the set counts. -/
theorem documents_congr {paths' : List Path}
    (h : ∀ l, l ∈ candidates disk here paths' ↔ l ∈ candidates disk here paths) :
    documents disk here paths' = documents disk here paths := by
  have hsorted :
      sortOnce (candidates disk here paths') = sortOnce (candidates disk here paths) := by
    refine eq_of_pairwise_namesLE (pairwise_sortOnce _) (pairwise_sortOnce _) (nodup_sortOnce _)
      (nodup_sortOnce _) ?_
    simpa [mem_sortOnce] using h
  rw [candidates, candidates] at hsorted
  rw [documents, documents, hsorted]

/-- A search of a disk gives documents just where no tree file without a stem is found. It
gives them in strict order, and gives those that are found, but no markdown file beside a
tree file that is found. So of the paths only the set counts. -/
theorem documents_exact (hdisk : disk.IsSound) (hhere : disk.isDirectory here = true)
    (paths : List Path) :
    ((∃ files, documents disk here paths = .ok files) ↔
        ∀ l, IsFound disk here paths l → ¬IsBareSuffix (nameOf l)) ∧
      ∀ files, documents disk here paths = .ok files →
        files.Pairwise (· < ·) ∧
        (∀ l, l ∈ files ↔ IsFound disk here paths l ∧
          (IsTreeName (nameOf l) ∨ ∀ t, IsFound disk here paths t → ¬IsBeside t l)) ∧
        ∀ paths', (∀ p, p ∈ paths' ↔ p ∈ paths) → documents disk here paths' = .ok files := by
  have hfound : ∀ l, l ∈ candidates disk here paths ↔ IsFound disk here paths l :=
    fun l => mem_candidates_iff hdisk hhere
  refine ⟨?result, fun files hfiles => ⟨?order, ?members, ?set⟩⟩
  case result =>
    simp only [← hfound, documents_eq_ok_iff]
    exact ⟨fun ⟨files, hnone, _⟩ => hnone, fun hnone => ⟨_, hnone, rfl⟩⟩
  case order =>
    have hstrict := (pairwise_documents hfiles).and (nodup_documents hfiles)
    exact hstrict.imp fun ⟨hle, hne⟩ => lt_of_namesLE hle hne
  case members =>
    intro l
    rw [mem_documents_iff hfiles, hfound, isTreeFile_iff]
    simp only [hfound]
    by_cases htree : IsTreeName (nameOf l)
    · simp only [htree, true_or]
    · simp only [htree, false_or]
      refine and_congr_right fun hl => forall₂_congr fun t ht => ?_
      have hdocument := isDocument_of_mem_candidates ((hfound l).2 hl)
      rw [← isTreeFile_iff] at htree
      constructor
      · intro hother hbeside
        have htree' := hbeside.isTreeFile
        exact hother htree' ((stem_eq_stem_iff_isBeside htree' hdocument htree).2 hbeside)
      · intro hbeside htree' hstem
        exact hbeside ((stem_eq_stem_iff_isBeside htree' hdocument htree).1 hstem)
  case set =>
    intro paths' hsame
    rw [← hfiles]
    refine documents_congr fun l => ?_
    simp only [candidates, List.mem_flatMap, hsame]

/-- A hidden directory, one of a tool, and a markdown file beside its tree file. -/
def searchedFiles : Disk where
  entries := [(["s", ".drafts", "x.md"], .file []), (["s", "a.md"], .file []),
    (["s", "b.md"], .file []), (["s", "b.mdast.json"], .file []),
    (["s", "node_modules", "c.md"], .file [])]

theorem candidates_searchedFiles :
    candidates searchedFiles ["s"] [.ofString ".drafts", .ofString "."] =
      [["s", ".drafts", "x.md"], ["s", "a.md"], ["s", "b.md"], ["s", "b.mdast.json"]] := by
  decide +kernel

theorem documents_searchedFiles :
    documents searchedFiles ["s"] [.ofString ".drafts", .ofString "."] =
      .ok [["s", ".drafts", "x.md"], ["s", "a.md"], ["s", "b.mdast.json"]] := by
  have hsorted :
      sortOnce [["s", ".drafts", "x.md"], ["s", "a.md"], ["s", "b.md"], ["s", "b.mdast.json"]] =
        [["s", ".drafts", "x.md"], ["s", "a.md"], ["s", "b.md"], ["s", "b.mdast.json"]] :=
    List.mergeSort_of_pairwise (by decide)
  rw [documents_eq_ok_iff, candidates_searchedFiles, hsorted]
  decide +kernel

/-- The hidden directory is searched where it is given, whatever else is. -/
theorem documents_exact_searchedFiles :
    searchedFiles.IsSound ∧ searchedFiles.isDirectory ["s"] = true ∧
      (IsFound searchedFiles ["s"] [.ofString ".drafts", .ofString "."] ["s", ".drafts", "x.md"] ∧
        ∀ t, IsFound searchedFiles ["s"] [.ofString ".drafts", .ofString "."] t →
          ¬IsBeside t ["s", ".drafts", "x.md"]) ∧
      documents searchedFiles ["s"] [.ofString ".", .ofString ".drafts", .ofString "."] =
        .ok [["s", ".drafts", "x.md"], ["s", "a.md"], ["s", "b.mdast.json"]] := by
  have hdisk : searchedFiles.IsSound := by decide +kernel
  have hhere : searchedFiles.isDirectory ["s"] = true := by decide +kernel
  obtain ⟨-, hexact⟩ := documents_exact hdisk hhere [.ofString ".drafts", .ofString "."]
  obtain ⟨-, hmembers, hset⟩ := hexact _ documents_searchedFiles
  obtain ⟨hfound, hkept⟩ := (hmembers ["s", ".drafts", "x.md"]).1 (by simp)
  have hmarkdown : ¬IsTreeName (nameOf ["s", ".drafts", "x.md"]) := by
    rw [← isTreeFile_iff]
    decide +kernel
  refine ⟨hdisk, hhere, ⟨hfound, hkept.resolve_left hmarkdown⟩, hset _ ?_⟩
  intro p
  simp only [List.mem_cons, List.not_mem_nil, or_false]
  tauto

end Corpus

end LinkIndex

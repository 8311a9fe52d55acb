import LinkIndex.Proofs.Corpus.Documents
import LinkIndex.Proofs.Except
import LinkIndex.Proofs.Slug.Path

/-!
Tree files beside markdown files. Documents are grouped by their stems and recorded under
keys that are read off their paths; below one directory both tell the same documents apart.
Only a tree file whose name is its suffix, or a dot and its suffix, has a key and no stem.
-/

namespace LinkIndex

/-- The text of the names in front of the last one. -/
theorem Location.exists_intercalate_concat (dir : Location) :
    ∃ front, ∀ name, String.intercalate "/" (dir ++ [name]) = front ++ name := by
  by_cases hdir : dir = []
  · exact ⟨"", fun name => by simp [hdir]⟩
  · refine ⟨String.intercalate "/" dir ++ "/", fun name => ?_⟩
    rw [String.intercalate_append_of_ne_nil hdir (List.cons_ne_nil _ _),
      String.intercalate_singleton]

theorem Location.text_append {cwd r : Location} (hcwd : cwd ≠ []) (hr : r ≠ []) :
    (cwd ++ r).text = cwd.text ++ "/" ++ String.intercalate "/" r := by
  rw [Location.text, Location.text, String.intercalate_append_of_ne_nil hcwd hr]
  simp only [String.append_assoc]

theorem Location.isBelow_iff {l top : Location} : l.isBelow top ↔ ∃ r, r ≠ [] ∧ l = top ++ r := by
  rw [Location.isBelow, Bool.and_eq_true, decide_eq_true_eq, decide_eq_true_eq]
  constructor
  · rintro ⟨hlength, htake⟩
    refine ⟨l.drop top.length, ?_, ?_⟩
    · intro hdrop
      have hle := List.drop_eq_nil_iff.1 hdrop
      omega
    · nth_rewrite 1 [← List.take_append_drop top.length l]
      rw [htake]
  · rintro ⟨r, hr, rfl⟩
    have hlength := List.length_pos_iff.2 hr
    exact ⟨by rw [List.length_append]; omega, List.take_left⟩

namespace Corpus

variable {name : String} {cwd p q r : Location}

/-! ### Names of documents -/

/-- An extension ends its name. -/
theorem exists_append_extension (h : extension name ≠ "") :
    ∃ front, name.toList = front ++ (extension name).toList := by
  rw [extension] at h ⊢
  split at h
  · exact absurd rfl h
  · rename_i hdot
    rw [if_neg hdot, String.toList_ofList]
    -- a name that is longer than its last run of other characters has a dot in front of it
    have hback := List.takeWhile_append_dropWhile (p := (· ≠ '.')) (l := name.toList.reverse)
    cases hrest : name.toList.reverse.dropWhile (· ≠ '.') with
    | nil =>
        have hlength := congrArg List.length hback
        rw [hrest, List.append_nil, List.length_reverse, String.length_toList] at hlength
        rw [not_or, not_or, List.length_reverse] at hdot
        omega
    | cons c rest =>
        have hc := List.head?_dropWhile_not (· ≠ '.') name.toList.reverse
        rw [hrest] at hc hback
        obtain rfl : c = '.' := by simpa using hc
        exact ⟨rest.reverse, by simpa using congrArg List.reverse hback.symm⟩

theorem exists_documentExtension (h : isDocument name = true) :
    ∃ e ∈ Slug.documentExtensions, name.toList = (stemName name).toList ++ e := by
  rw [stemName]
  cases htree : Text.dropSuffix? treeSuffix name.toList with
  | some front =>
      refine ⟨treeSuffix, by decide, ?_⟩
      rw [String.toList_ofList]
      exact Text.dropSuffix?_eq_some_iff.1 htree
  | none =>
      have hmarkdown : extension name ∈ markdownExtensions := by
        simpa [isDocument, isTreeFile, Text.endsWith, htree] using h
      have hext : extension name ≠ "" ∧ (extension name).toList ∈ Slug.documentExtensions := by
        have hall : ∀ e ∈ markdownExtensions, e ≠ "" ∧ e.toList ∈ Slug.documentExtensions := by
          decide
        exact hall _ hmarkdown
      obtain ⟨front, hfront⟩ := exists_append_extension hext.1
      refine ⟨_, hext.2, ?_⟩
      have hlength : name.length - (extension name).length = front.length := by
        rw [← String.length_toList, hfront, List.length_append, String.length_toList]
        omega
      rw [hlength, String.toList_ofList, hfront, List.take_left]

theorem stemName_eq_of_append {front e : List Char} (h : isDocument name = true)
    (he : e ∈ Slug.documentExtensions) (hname : name.toList = front ++ e) :
    stemName name = String.ofList front := by
  obtain ⟨e', he', hname'⟩ := exists_documentExtension h
  have hfront := (Slug.extension_unique he' he (hname'.symm.trans hname)).1
  rw [← hfront, String.ofList_toList]

theorem ne_nil_of_isDocument {l : Location} (h : isDocument (nameOf l) = true) : l ≠ [] := by
  rintro rfl
  contradiction

theorem dropLast_append_nameOf {l : Location} (h : l ≠ []) : l.dropLast ++ [nameOf l] = l := by
  rw [nameOf, List.getLast?_eq_getLast_of_ne_nil h, Option.getD_some, List.dropLast_concat_getLast]

theorem nameOf_mem {l : Location} (h : l ≠ []) : nameOf l ∈ l := by
  rw [nameOf, List.getLast?_eq_getLast_of_ne_nil h, Option.getD_some]
  exact List.getLast_mem h

theorem nameOf_append (cwd : Location) (hr : r ≠ []) : nameOf (cwd ++ r) = nameOf r := by
  rw [nameOf, nameOf, List.getLast?_append_of_ne_nil _ hr]

theorem stem_append (cwd : Location) (hr : r ≠ []) : stem (cwd ++ r) = cwd ++ stem r := by
  rw [stem, stem, nameOf_append cwd hr, List.dropLast_append_of_ne_nil hr, List.append_assoc]

/-! ### Keys and stems -/

/-- The key that the path of a document gives it. -/
def key (cwd l : Location) : String :=
  Slug.ofPath l.text cwd.text

/-- The key of a document below a directory is the text of its stem. -/
theorem key_append (hcwd : cwd ≠ []) (h : isDocument (nameOf r) = true) :
    key cwd (cwd ++ r) = String.intercalate "/" (stem r) := by
  have hr := ne_nil_of_isDocument h
  obtain ⟨e, he, hname⟩ := exists_documentExtension h
  obtain ⟨front, hfront⟩ := Location.exists_intercalate_concat r.dropLast
  have hpath : (String.intercalate "/" r).toList =
      (String.intercalate "/" (stem r)).toList ++ e := by
    nth_rewrite 1 [← dropLast_append_nameOf hr]
    rw [stem, hfront, hfront, String.toList_append, String.toList_append, hname,
      List.append_assoc]
  rw [key, Location.text_append hcwd hr, Slug.ofPath]
  have hchars : (cwd.text ++ "/" ++ String.intercalate "/" r).toList =
      cwd.text.toList ++ '/' :: ((String.intercalate "/" (stem r)).toList ++ e) := by
    simp [hpath]
  rw [hchars, Slug.ofPathChars_append he, String.ofList_toList]

theorem not_mem_stemName {c : Char} (hc : c ∉ name.toList) (h : isDocument name = true) :
    c ∉ (stemName name).toList := by
  obtain ⟨e, -, hname⟩ := exists_documentExtension h
  rw [hname] at hc
  exact fun hmem => hc (List.mem_append_left e hmem)

theorem not_mem_of_mem_stem (hr : r.IsNamed) (h : isDocument (nameOf r) = true) :
    ∀ cs ∈ (stem r).map String.toList, '/' ∉ cs := by
  intro cs hcs
  obtain ⟨piece, hpiece, rfl⟩ := List.mem_map.1 hcs
  rcases List.mem_append.1 hpiece with hdir | hlast
  · exact (hr piece (List.mem_of_mem_dropLast hdir)).2
  · rw [List.mem_singleton.1 hlast]
    exact not_mem_stemName (hr (nameOf r) (nameOf_mem (ne_nil_of_isDocument h))).2 h

/-- A document of a directory or of the directories in it. -/
structure IsDocumentBelow (cwd l : Location) : Prop where
  below : l.isBelow cwd = true
  named : l.IsNamed
  document : isDocument (nameOf l) = true

/-- Below a directory, the documents of one stem are those of one key. -/
theorem key_eq_key_iff (hcwd : cwd ≠ []) (hp : IsDocumentBelow cwd p)
    (hq : IsDocumentBelow cwd q) : key cwd p = key cwd q ↔ stem p = stem q := by
  obtain ⟨r, hr, rfl⟩ := Location.isBelow_iff.1 hp.below
  obtain ⟨r', hr', rfl⟩ := Location.isBelow_iff.1 hq.below
  have hdocument := hp.document
  have hdocument' := hq.document
  rw [nameOf_append cwd hr] at hdocument
  rw [nameOf_append cwd hr'] at hdocument'
  rw [key_append hcwd hdocument, key_append hcwd hdocument', stem_append cwd hr,
    stem_append cwd hr', List.append_cancel_left_eq]
  constructor
  · intro htext
    have hplain := not_mem_of_mem_stem (fun name h => hp.named name (by simp [h])) hdocument
    have hplain' := not_mem_of_mem_stem (fun name h => hq.named name (by simp [h])) hdocument'
    have hslash : "/".toList = ['/'] := rfl
    have hsplit := congrArg (fun s : String => s.toList.splitOn '/') htext
    simp only [String.toList_intercalate, hslash] at hsplit
    rw [List.splitOn_intercalate '/' hplain (by simp [stem]),
      List.splitOn_intercalate '/' hplain' (by simp [stem])] at hsplit
    exact List.map_injective_iff.2 (fun a b => String.toList_inj.1) hsplit
  · intro hstem
    rw [hstem]

/-! ### Tree files without a stem -/

/-- The names of tree files that leave no name for the markdown file beside them. -/
def IsBareSuffix (name : String) : Prop :=
  name = ".mdast.json" ∨ name = "..mdast.json"

instance : DecidablePred IsBareSuffix :=
  fun name => inferInstanceAs (Decidable (name = _ ∨ name = _))

/-- The stem of a document, where it has one. -/
def stem? (l : Location) : Except InvalidName Location :=
  if isTreeFile (nameOf l) && !isFileName (stemName (nameOf l)) then
    .error ⟨stemName (nameOf l)⟩
  else .ok (stem l)

theorem isFileName_stemName_iff (h : isTreeFile name = true) :
    isFileName (stemName name) = true ↔ ¬IsBareSuffix name := by
  obtain ⟨front, hfront⟩ := Option.isSome_iff_exists.1 h
  have hname : name = String.ofList front ++ ".mdast.json" := by
    rw [← String.toList_inj, String.toList_append, String.toList_ofList]
    exact Text.dropSuffix?_eq_some_iff.1 hfront
  have hbare : IsBareSuffix name ↔ String.ofList front = "" ∨ String.ofList front = "." := by
    have hdot : "..mdast.json" = "." ++ ".mdast.json" := rfl
    have hempty : ".mdast.json" = "" ++ ".mdast.json" := rfl
    rw [IsBareSuffix, hname, hdot, String.append_left_inj]
    nth_rewrite 2 [hempty]
    rw [String.append_left_inj]
  rw [hbare, stemName, hfront]
  simp [isFileName]

theorem isTreeFile_of_isBareSuffix (h : IsBareSuffix name) : isTreeFile name = true := by
  rcases h with rfl | rfl <;> decide

theorem stem?_of_not_isBareSuffix {l : Location} (h : ¬IsBareSuffix (nameOf l)) :
    stem? l = .ok (stem l) := by
  rw [stem?, if_neg]
  cases htree : isTreeFile (nameOf l) with
  | false => simp
  | true => simp [(isFileName_stemName_iff htree).2 h]

theorem stem?_of_isBareSuffix {l : Location} (h : IsBareSuffix (nameOf l)) :
    stem? l = .error ⟨stemName (nameOf l)⟩ := by
  have htree := isTreeFile_of_isBareSuffix h
  rw [stem?, if_pos]
  simpa [htree] using (isFileName_stemName_iff htree).not_left.2 h

/-! ### The documents that are found -/

variable {disk : Disk} {here : Location} {paths : List Path} {files : List Location}

theorem exists_advance_of_follow {pieces : List String} {piece : String} {l : Location}
    (h : disk.follow here (pieces ++ [piece]) = .ok l) :
    ∃ last, disk.advance last piece = .ok l := by
  induction pieces generalizing here with
  | nil =>
      refine ⟨here, ?_⟩
      rw [List.nil_append, Disk.follow] at h
      split at h
      · rename_i next hnext
        rw [hnext]
        exact h
      · cases h
  | cons first pieces ih =>
      rw [List.cons_append, Disk.follow] at h
      split at h
      · exact ih h
      · cases h

/-- The name of a file that is found is the last one of its path. -/
theorem nameOf_of_find {path : Path} {l : Location} (hfind : disk.find here path = .ok l)
    (h : isDocument path.name = true) : nameOf l = path.name := by
  have hnames : path.names ≠ [] := ne_nil_of_isDocument h
  have hname : path.names.dropLast ++ [path.name] = path.names := dropLast_append_nameOf hnames
  rw [Disk.find, ← hname] at hfind
  obtain ⟨last, hlast⟩ := exists_advance_of_follow hfind
  -- none of the pieces that lead nowhere or back up is the name of a document
  have hstays : ¬(path.name = "" ∨ path.name = ".") := by
    rintro (hpiece | hpiece) <;> rw [hpiece] at h <;> revert h <;> decide
  have hdown : path.name ≠ ".." := by
    intro hpiece
    rw [hpiece] at h
    revert h
    decide
  rw [Disk.advance, if_neg hstays] at hlast
  simp only [Path.step, if_neg hdown] at hlast
  split at hlast
  · cases hlast
  · split at hlast
    · rw [← Except.ok.inj hlast, nameOf, List.getLast?_concat, Option.getD_some]
    · cases hlast

theorem isDocument_of_found {path : Path} {l : Location} (hl : l ∈ found disk here path) :
    isDocument (nameOf l) = true := by
  rw [found] at hl
  cases hfind : disk.find here path with
  | error fault => simp [hfind] at hl
  | ok top =>
      simp only [hfind] at hl
      split at hl
      · split at hl
        · rename_i hname
          rw [List.mem_singleton.1 hl, nameOf_of_find hfind hname]
          exact hname
        · cases hl
      · have hfile := (List.mem_filter.1 hl).2
        rw [Bool.and_eq_true] at hfile
        exact hfile.1

/-- All that the paths lead to, before markdown files are left out. -/
def candidates (disk : Disk) (here : Location) (paths : List Path) : List Location :=
  paths.flatMap (found disk here)

theorem mem_sortOnce {ls : List Location} {l : Location} : l ∈ sortOnce ls ↔ l ∈ ls := by
  rw [sortOnce, (List.mergeSort_perm _ _).mem_iff, List.mem_eraseDups]

/-- The stems of tree files are found one by one, up to the first file without one. -/
theorem treeStems_eq_mapM (ls : List Location) :
    treeStems ls = (ls.filter fun l => isTreeFile (nameOf l)).mapM stem? := by
  have hall : ∀ t ∈ ls.filter fun l => isTreeFile (nameOf l), isTreeFile (nameOf t) = true :=
    fun t ht => (List.mem_filter.1 ht).2
  rw [treeStems]
  generalize ls.filter (fun l => isTreeFile (nameOf l)) = trees at hall
  induction trees with
  | nil => rfl
  | cons t trees ih =>
      obtain ⟨htree, htrees⟩ := List.forall_mem_cons.1 hall
      rw [List.mapM_cons, ← ih htrees, stem?, htree, Bool.true_and, List.find?_cons]
      cases hname : isFileName (stemName (nameOf t)) with
      | false => rfl
      | true =>
          simp only [Bool.not_true, Bool.false_eq_true, if_false]
          cases trees.find? fun l => !isFileName (stemName (nameOf l)) <;> rfl

theorem mapM_stem?_eq_ok_iff {ls stems : List Location} :
    ls.mapM stem? = .ok stems ↔
      (∀ l ∈ ls, ¬IsBareSuffix (nameOf l)) ∧ stems = ls.map stem := by
  rw [eq_comm (a := stems)]
  induction ls generalizing stems with
  | nil => simp
  | cons l ls ih =>
      rw [List.mapM_cons, bind_eq_ok_iff, List.forall_mem_cons]
      by_cases hbare : IsBareSuffix (nameOf l)
      · simp [stem?_of_isBareSuffix hbare, hbare]
      · simp [stem?_of_not_isBareSuffix hbare, hbare, ih, and_assoc]

theorem treeStems_eq_ok_iff {ls stems : List Location} :
    treeStems ls = .ok stems ↔ (∀ l ∈ ls, ¬IsBareSuffix (nameOf l)) ∧
      stems = (ls.filter fun l => isTreeFile (nameOf l)).map stem := by
  have hbare : (∀ l ∈ ls.filter fun l => isTreeFile (nameOf l), ¬IsBareSuffix (nameOf l)) ↔
      ∀ l ∈ ls, ¬IsBareSuffix (nameOf l) := by
    simp only [List.mem_filter, and_imp]
    exact forall₂_congr fun l hl =>
      ⟨fun h hbare => h (isTreeFile_of_isBareSuffix hbare) hbare, fun h _ => h⟩
  rw [treeStems_eq_mapM, mapM_stem?_eq_ok_iff, hbare]

theorem documents_eq_ok_iff : documents disk here paths = .ok files ↔
    (∀ l ∈ candidates disk here paths, ¬IsBareSuffix (nameOf l)) ∧
      files = (sortOnce (candidates disk here paths)).filter fun l => isTreeFile (nameOf l) ||
        !(((sortOnce (candidates disk here paths)).filter
          fun l => isTreeFile (nameOf l)).map stem).contains (stem l) := by
  have hbare : (∀ l ∈ sortOnce (candidates disk here paths), ¬IsBareSuffix (nameOf l)) ↔
      ∀ l ∈ candidates disk here paths, ¬IsBareSuffix (nameOf l) := by
    simp only [mem_sortOnce]
  rw [← hbare, documents, ← candidates]
  constructor
  · intro hfiles
    split at hfiles
    · cases hfiles
    · rename_i stems hstems
      obtain ⟨hnone, rfl⟩ := treeStems_eq_ok_iff.1 hstems
      exact ⟨hnone, (Except.ok.inj hfiles).symm⟩
  · rintro ⟨hnone, rfl⟩
    simp only [treeStems_eq_ok_iff.2 ⟨hnone, rfl⟩]

/-- The search fails for the tree files without a stem, and for no others. -/
theorem exists_error_iff :
    (∃ e, documents disk here paths = .error e) ↔
      ∃ l ∈ candidates disk here paths, IsBareSuffix (nameOf l) := by
  constructor
  · rintro ⟨e, he⟩
    by_contra hnone
    push Not at hnone
    rw [documents_eq_ok_iff.2 ⟨hnone, rfl⟩] at he
    cases he
  · rintro ⟨l, hl, hbare⟩
    cases hdocuments : documents disk here paths with
    | error e => exact ⟨e, rfl⟩
    | ok files => exact absurd hbare ((documents_eq_ok_iff.1 hdocuments).1 l hl)

theorem mem_documents_iff (hfiles : documents disk here paths = .ok files) {l : Location} :
    l ∈ files ↔ l ∈ candidates disk here paths ∧ (isTreeFile (nameOf l) = true ∨
      ∀ t ∈ candidates disk here paths, isTreeFile (nameOf t) = true → stem t ≠ stem l) := by
  rw [(documents_eq_ok_iff.1 hfiles).2]
  simp [List.mem_filter, mem_sortOnce]

/-! ### Documents of one key -/

/-- A location with an extension to its name. -/
def withExtension (s : Location) (e : String) : Location :=
  s.dropLast ++ [nameOf s ++ e]

theorem nameOf_withExtension (s : Location) (e : String) :
    nameOf (withExtension s e) = nameOf s ++ e := by
  rw [withExtension, nameOf, List.getLast?_concat, Option.getD_some]

theorem stem_withExtension {s : Location} {e : String} (he : e.toList ∈ Slug.documentExtensions)
    (h : isDocument (nameOf (withExtension s e)) = true) :
    stem (withExtension s e) = s.dropLast ++ [nameOf s] := by
  have hname := nameOf_withExtension s e
  have hchars : (nameOf (withExtension s e)).toList = (nameOf s).toList ++ e.toList := by
    rw [hname, String.toList_append]
  rw [stem, stemName_eq_of_append h he hchars, String.ofList_toList, withExtension,
    List.dropLast_concat]

/-- A document is its stem with one extension, which tells what it is. -/
theorem exists_eq_withExtension {l : Location} (h : isDocument (nameOf l) = true) :
    ∃ e ∈ [".mdast.json", ".mdx", ".md"],
      l = withExtension (stem l) e ∧ (isTreeFile (nameOf l) = true ↔ e = ".mdast.json") := by
  obtain ⟨e, he, hname⟩ := exists_documentExtension h
  have hmem : String.ofList e ∈ [".mdast.json", ".mdx", ".md"] := by
    have hall : ∀ e ∈ Slug.documentExtensions,
        String.ofList e ∈ [".mdast.json", ".mdx", ".md"] := by
      decide
    exact hall e he
  refine ⟨String.ofList e, hmem, ?_, ?_⟩
  · have hlast : stemName (nameOf l) ++ String.ofList e = nameOf l := by
      rw [← String.toList_inj, String.toList_append, String.toList_ofList, hname]
    have hstem : nameOf (stem l) = stemName (nameOf l) := by
      rw [stem, nameOf, List.getLast?_concat, Option.getD_some]
    rw [withExtension, hstem, hlast, stem, List.dropLast_concat,
      dropLast_append_nameOf (ne_nil_of_isDocument h)]
  · rw [isTreeFile, Text.endsWith, Option.isSome_iff_exists]
    constructor
    · rintro ⟨front, hfront⟩
      have hsuffix := (Text.dropSuffix?_eq_some_iff.1 hfront).symm.trans hname
      rw [← (Slug.extension_unique (by decide) he hsuffix).2]
      rfl
    · intro hsuffix
      obtain rfl : e = treeSuffix := by
        rw [← String.toList_ofList (l := e), hsuffix]
        rfl
      exact ⟨_, Text.dropSuffix?_eq_some_iff.2 hname⟩

/-- Two documents that are a markdown file of either extension, of one stem. -/
def IsMarkdownPair (p q : Location) : Prop :=
  ∃ s, p = withExtension s ".md" ∧ q = withExtension s ".mdx"

theorem stem_eq_of_isMarkdownPair (hp : isDocument (nameOf p) = true)
    (hq : isDocument (nameOf q) = true) (h : IsMarkdownPair p q) : stem p = stem q := by
  obtain ⟨s, rfl, rfl⟩ := h
  rw [stem_withExtension (by decide) hp, stem_withExtension (by decide) hq]

theorem isDocument_of_mem_candidates (hp : p ∈ candidates disk here paths) :
    isDocument (nameOf p) = true := by
  obtain ⟨path, -, hfound⟩ := List.mem_flatMap.1 hp
  exact isDocument_of_found hfound

theorem isDocument_of_mem (hfiles : documents disk here paths = .ok files) (hp : p ∈ files) :
    isDocument (nameOf p) = true :=
  isDocument_of_mem_candidates ((mem_documents_iff hfiles).1 hp).1

theorem eq_of_isTreeFile (hfiles : documents disk here paths = .ok files) (hp : p ∈ files)
    (hq : q ∈ files) (hstem : stem p = stem q) (htree : isTreeFile (nameOf p) = true) : p = q := by
  obtain ⟨hfound, -⟩ := (mem_documents_iff hfiles).1 hp
  rcases ((mem_documents_iff hfiles).1 hq).2 with htree' | hother
  · obtain ⟨e, -, heq, he⟩ := exists_eq_withExtension (isDocument_of_mem hfiles hp)
    obtain ⟨e', -, heq', he'⟩ := exists_eq_withExtension (isDocument_of_mem hfiles hq)
    rw [heq, heq', hstem, he.1 htree, he'.1 htree']
  · exact absurd hstem (hother p hfound htree)

/-- Of the documents that are found, two of one stem are markdown files. -/
theorem stem_eq_stem_iff (hfiles : documents disk here paths = .ok files) (hp : p ∈ files)
    (hq : q ∈ files) (hne : p ≠ q) :
    stem p = stem q ↔ IsMarkdownPair p q ∨ IsMarkdownPair q p := by
  have hdocument := isDocument_of_mem hfiles hp
  have hdocument' := isDocument_of_mem hfiles hq
  constructor
  · intro hstem
    obtain ⟨e, hmem, heq, htree⟩ := exists_eq_withExtension hdocument
    obtain ⟨e', hmem', heq', htree'⟩ := exists_eq_withExtension hdocument'
    have hmarkdown : e ≠ ".mdast.json" :=
      fun he => hne (eq_of_isTreeFile hfiles hp hq hstem (htree.2 he))
    have hmarkdown' : e' ≠ ".mdast.json" :=
      fun he => hne (eq_of_isTreeFile hfiles hq hp hstem.symm (htree'.2 he)).symm
    rw [← hstem] at heq'
    obtain rfl | rfl : e = ".mdx" ∨ e = ".md" := by simpa [hmarkdown] using hmem
    · obtain rfl | rfl : e' = ".mdx" ∨ e' = ".md" := by simpa [hmarkdown'] using hmem'
      · exact absurd (heq.trans heq'.symm) hne
      · exact .inr ⟨stem p, heq', heq⟩
    · obtain rfl | rfl : e' = ".mdx" ∨ e' = ".md" := by simpa [hmarkdown'] using hmem'
      · exact .inl ⟨stem p, heq, heq'⟩
      · exact absurd (heq.trans heq'.symm) hne
  · rintro (hpair | hpair)
    · exact stem_eq_of_isMarkdownPair hdocument hdocument' hpair
    · exact (stem_eq_of_isMarkdownPair hdocument' hdocument hpair).symm

theorem isDocumentBelow_of_mem (hdisk : disk.WellNamed) (hp : p ∈ candidates disk here paths)
    (hbelow : p.isBelow cwd = true) : IsDocumentBelow cwd p := by
  obtain ⟨path, -, hfound⟩ := List.mem_flatMap.1 hp
  exact ⟨hbelow, hdisk p (mem_keys_of_found hfound), isDocument_of_found hfound⟩

/-- Documents of one stem are in one directory. -/
theorem isBelow_of_stem_eq (hp : p ≠ []) (hstem : stem p = stem q) (hq : q.isBelow cwd = true) :
    p.isBelow cwd = true := by
  obtain ⟨r, hr, rfl⟩ := Location.isBelow_iff.1 hq
  have hdir : p.dropLast = cwd ++ r.dropLast := by
    rw [stem, stem, List.dropLast_append_of_ne_nil hr] at hstem
    exact (List.append_inj' hstem rfl).1
  refine Location.isBelow_iff.2 ⟨r.dropLast ++ [nameOf p], by simp, ?_⟩
  rw [← List.append_assoc, ← hdir, dropLast_append_nameOf hp]

/-- A candidate that is left out stands beside a tree file of its stem. -/
theorem exists_sidecar (hfiles : documents disk here paths = .ok files)
    (hq : q ∈ candidates disk here paths) (hout : q ∉ files) :
    isTreeFile (nameOf q) = false ∧
      ∃ t ∈ files, isTreeFile (nameOf t) = true ∧ stem t = stem q := by
  rw [mem_documents_iff hfiles, not_and, not_or] at hout
  obtain ⟨hmarkdown, hother⟩ := hout hq
  refine ⟨by simpa using hmarkdown, ?_⟩
  push Not at hother
  obtain ⟨t, ht, htree, hstem⟩ := hother
  exact ⟨t, (mem_documents_iff hfiles).2 ⟨ht, .inl htree⟩, htree, hstem⟩

/-- Grouping by stems and keying by paths agree. The key of a path below a directory is the
rest of the path without the one extension at its end. Below a directory, two documents have
one key where they have one stem, and all but the tree files of two names have a stem;
those two end the search. Of the documents that are found, two have one key where they are
the markdown files of one stem, and a markdown file that is left out has the key of the tree
file in its place. -/
theorem stems_agree_with_keys {cwd : Location} (hcwd : cwd ≠ []) :
    (∀ dir r : String, r.toList.getLast? ≠ some '\n' →
      Slug.IsWithoutExtension r (Slug.ofPath (dir ++ "/" ++ r) dir)) ∧
    (∀ p q : Location, IsDocumentBelow cwd p → IsDocumentBelow cwd q →
      ((∃ e, stem? p = .error e) ↔ IsBareSuffix (nameOf p)) ∧
        (¬IsBareSuffix (nameOf p) → ¬IsBareSuffix (nameOf q) →
          (stem? p = stem? q ↔ key cwd p = key cwd q))) ∧
    ∀ (disk : Disk) (here : Location) (paths : List Path), disk.WellNamed →
      ((∃ e, documents disk here paths = .error e) ↔
        ∃ l ∈ candidates disk here paths, IsBareSuffix (nameOf l)) ∧
      ∀ files : List Location, documents disk here paths = .ok files →
        (∀ p ∈ files, ∀ q ∈ files, p.isBelow cwd = true → q.isBelow cwd = true → p ≠ q →
          (key cwd p = key cwd q ↔ IsMarkdownPair p q ∨ IsMarkdownPair q p)) ∧
        ∀ q ∈ candidates disk here paths, q ∉ files → q.isBelow cwd = true →
          isTreeFile (nameOf q) = false ∧
            ∃ t ∈ files, isTreeFile (nameOf t) = true ∧ stem? t = stem? q ∧
              key cwd t = key cwd q := by
  refine ⟨fun dir r => Slug.ofPath_below dir, ?pair, ?search⟩
  case pair =>
    intro p q hp hq
    constructor
    · constructor
      · rintro ⟨e, he⟩
        by_contra hstem
        rw [stem?_of_not_isBareSuffix hstem] at he
        cases he
      · intro hbare
        exact ⟨_, stem?_of_isBareSuffix hbare⟩
    · intro hstem hstem'
      rw [stem?_of_not_isBareSuffix hstem, stem?_of_not_isBareSuffix hstem',
        key_eq_key_iff hcwd hp hq, Except.ok.injEq]
  case search =>
    intro disk here paths hdisk
    refine ⟨exists_error_iff, ?_⟩
    intro files hfiles
    have hbelow {l : Location} (hl : l ∈ candidates disk here paths)
        (hl' : l.isBelow cwd = true) : IsDocumentBelow cwd l := isDocumentBelow_of_mem hdisk hl hl'
    have hcandidate {l : Location} (hl : l ∈ files) := ((mem_documents_iff hfiles).1 hl).1
    constructor
    · intro p hp q hq hp' hq' hne
      rw [key_eq_key_iff hcwd (hbelow (hcandidate hp) hp') (hbelow (hcandidate hq) hq'),
        stem_eq_stem_iff hfiles hp hq hne]
    · intro q hq hout hq'
      obtain ⟨hmarkdown, t, ht, htree, hstem⟩ := exists_sidecar hfiles hq hout
      have hnone := (documents_eq_ok_iff.1 hfiles).1
      have ht' := isBelow_of_stem_eq (ne_nil_of_isDocument (isDocument_of_mem hfiles ht)) hstem hq'
      refine ⟨hmarkdown, t, ht, htree, ?_, ?_⟩
      · rw [stem?_of_not_isBareSuffix (hnone t (hcandidate ht)),
          stem?_of_not_isBareSuffix (hnone q hq), hstem]
      · exact (key_eq_key_iff hcwd (hbelow (hcandidate ht) ht') (hbelow hq hq')).2 hstem

/-- Two markdown files of one stem, and a third beside its tree file. -/
def sidecarFiles : Disk where
  entries := [(["s", "a.md"], .file []), (["s", "a.mdx"], .file []), (["s", "b.md"], .file []),
    (["s", "b.mdast.json"], .file [])]

theorem candidates_sidecarFiles : candidates sidecarFiles [] [.ofString "."] =
    [["s", "a.md"], ["s", "a.mdx"], ["s", "b.md"], ["s", "b.mdast.json"]] := by
  decide +kernel

theorem documents_sidecarFiles : documents sidecarFiles [] [.ofString "."] =
    .ok [["s", "a.md"], ["s", "a.mdx"], ["s", "b.mdast.json"]] := by
  have hsorted : sortOnce [["s", "a.md"], ["s", "a.mdx"], ["s", "b.md"], ["s", "b.mdast.json"]] =
      [["s", "a.md"], ["s", "a.mdx"], ["s", "b.md"], ["s", "b.mdast.json"]] :=
    List.mergeSort_of_pairwise (by decide)
  rw [documents_eq_ok_iff, candidates_sidecarFiles, hsorted]
  decide +kernel

theorem stems_agree_sidecarFiles :
    ["s"] ≠ ([] : Location) ∧
    Slug.IsWithoutExtension "a.md.mdx" (Slug.ofPath ("/s" ++ "/" ++ "a.md.mdx") "/s") ∧
    (stem? ["s", "a.md"] = stem? ["s", "a.mdx"] ↔ key ["s"] ["s", "a.md"] = key ["s"] ["s", "a.mdx"]) ∧
    documents sidecarFiles [] [.ofString "."] =
      .ok [["s", "a.md"], ["s", "a.mdx"], ["s", "b.mdast.json"]] ∧
    (key ["s"] ["s", "a.md"] = key ["s"] ["s", "a.mdx"] ↔
      IsMarkdownPair ["s", "a.md"] ["s", "a.mdx"] ∨ IsMarkdownPair ["s", "a.mdx"] ["s", "a.md"]) ∧
    ∃ t, isTreeFile (nameOf t) = true ∧ stem? t = stem? ["s", "b.md"] ∧
      key ["s"] t = key ["s"] ["s", "b.md"] := by
  have hcwd : ["s"] ≠ ([] : Location) := by decide
  obtain ⟨hkey, hpair, hsearch⟩ := stems_agree_with_keys hcwd
  have hpair' := hpair ["s", "a.md"] ["s", "a.mdx"] ⟨by decide, by decide, by decide⟩
    ⟨by decide, by decide, by decide⟩
  have hfiles := (hsearch sidecarFiles [] [.ofString "."] (by decide)).2 _ documents_sidecarFiles
  obtain ⟨-, t, -, htree, hstem, hkey'⟩ := hfiles.2 ["s", "b.md"]
    (by rw [candidates_sidecarFiles]; decide) (by decide) (by decide)
  exact ⟨hcwd, hkey _ _ (by decide), hpair'.2 (by decide) (by decide), documents_sidecarFiles,
    hfiles.1 _ (by decide) _ (by decide) (by decide) (by decide) (by decide), t, htree, hstem, hkey'⟩

/-- A tree file whose name is a dot and its suffix, and the markdown file of the same key. -/
def dottedFiles : Disk where
  entries := [(["s", "..mdast.json"], .file []), (["s", "..md"], .file [])]

/-- The two files have one key, yet only one of them has a stem, and no document is found. -/
theorem dotted_key_without_stem :
    (IsDocumentBelow ["s"] ["s", "..mdast.json"] ∧ nameOf ["s", "..mdast.json"] ≠ ".mdast.json") ∧
      (IsDocumentBelow ["s"] ["s", "..md"] ∧ nameOf ["s", "..md"] ≠ ".mdast.json") ∧
      key ["s"] ["s", "..mdast.json"] = key ["s"] ["s", "..md"] ∧
      stem? ["s", "..mdast.json"] ≠ stem? ["s", "..md"] ∧
      ∃ e, documents dottedFiles [] [.ofString "."] = .error e := by
  have hfound : ["s", "..mdast.json"] ∈ candidates dottedFiles [] [.ofString "."] := by
    decide +kernel
  exact ⟨⟨⟨by decide, by decide, by decide⟩, by decide⟩,
    ⟨⟨by decide, by decide, by decide⟩, by decide⟩, by decide +kernel, by decide,
    exists_error_iff.2 ⟨_, hfound, by decide⟩⟩

end Corpus

end LinkIndex

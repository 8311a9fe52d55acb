import LinkIndex.Proofs.Corpus.Accounting
import LinkIndex.Proofs.Corpus.Removal

/-!
A scan with a file that cannot be read, beside the scan of the same corpus without
it. The two go through the other files in step: the stores stay the same, and so do
the counts and what is logged as a warning. The file itself leaves its own warning in
the report, one more document and one more that is skipped.
-/

namespace LinkIndex.Corpus

/-- The same setup, with a file taken from the disk. -/
def Setup.without (setup : Setup) (file : Location) : Setup :=
  { setup with disk := setup.disk.remove file }

variable {setup : Setup} {file : Location} {e : ReadError} {p q : Progress}
  {before after files : List Location} {store : Store} {paths : List Path}

/-! ### Scans in step -/

/-- Two scans are equally far, but for what they tell of files that cannot be read. -/
structure Progress.Alike (p q : Progress) : Prop where
  store : p.store = q.store
  processed : p.processed = q.processed
  logged : p.notices.filter Notice.isWarning = q.notices.filter Notice.isWarning

theorem Progress.Alike.refl (p : Progress) : p.Alike p :=
  ⟨rfl, rfl, rfl⟩

/-- Both scans go on and are alike, or both end, with the same failure. -/
inductive Agree :
    Except (ReadError × Progress) Progress → Except (ReadError × Progress) Progress → Prop
  | ok {p q : Progress} (h : p.Alike q) : Agree (.ok p) (.ok q)
  | error {p q : Progress} (e : ReadError) (h : p.Alike q) : Agree (.error (e, p)) (.error (e, q))

theorem agree_scanFile (setup : Setup) (h : p.Alike q) (file : Location) :
    Agree (scanFile setup p file) (scanFile setup q file) := by
  rw [scanFile, scanFile]
  cases hread : readDocument setup.disk setup.cwd (.ofLocation file) with
  | error e =>
      cases htold : e.isTold with
      | false =>
          simp only [htold, Bool.false_eq_true, if_false]
          exact .error e h
      | true =>
          simp only [htold, if_true]
          exact .ok ⟨h.store, h.processed, by simp only [List.filter_append, h.logged]⟩
  | ok parts =>
      simp only [h.store, h.processed]
      exact .ok ⟨rfl, rfl, by simp only [List.filter_append, h.logged]⟩

theorem agree_scanFiles (h : p.Alike q) (files : List Location) :
    Agree (scanFiles setup p files) (scanFiles setup q files) := by
  induction files generalizing p q with
  | nil => exact .ok h
  | cons file rest ih =>
      rw [scanFiles, scanFiles]
      have hstep := agree_scanFile setup h file
      generalize scanFile setup p file = r at hstep
      generalize scanFile setup q file = r' at hstep
      cases hstep with
      | ok hnext => exact ih hnext
      | error e hnext => exact .error e hnext

/-- A file that cannot be read changes nothing but what is told of it. -/
theorem alike_of_told (hread : readDocument setup.disk setup.cwd (.ofLocation file) = .error e)
    (htold : e.isTold = true) (p : Progress) :
    ∃ q, scanFile setup p file = .ok q ∧ q.Alike p := by
  have hunlogged : (Notice.notLoaded file.text).isWarning = false := rfl
  refine ⟨{ p with
    warnings := p.warnings ++ [warning file e]
    notices := p.notices ++ [.notLoaded file.text] }, ?_, rfl, rfl, ?_⟩
  · simp only [scanFile, hread, htold, if_true]
  · simp [List.filter_append, hunlogged]

/-- The scan of all files and that of the others go in step. -/
theorem agree_without (hread : readDocument setup.disk setup.cwd (.ofLocation file) = .error e)
    (htold : e.isTold = true) (p : Progress) (before after : List Location) :
    Agree (scanFiles setup p (before ++ file :: after)) (scanFiles setup p (before ++ after)) := by
  induction before generalizing p with
  | nil =>
      obtain ⟨q, hq, halike⟩ := alike_of_told hread htold p
      rw [List.nil_append, List.nil_append, scanFiles_cons after hq]
      exact agree_scanFiles halike after
  | cons f rest ih =>
      rw [List.cons_append, List.cons_append, scanFiles, scanFiles]
      cases scanFile setup p f with
      | ok next => exact ih next
      | error failure => exact .error failure.1 (.refl failure.2)

/-! ### The corpus without the file -/

/-- The disk matters to the loop only by what is read of the files. -/
theorem scanFiles_congr {setup' : Setup} (hoptions : setup'.options = setup.options)
    (hroot : setup'.root = setup.root)
    (hread : ∀ f ∈ files, readDocument setup'.disk setup'.cwd (.ofLocation f) =
      readDocument setup.disk setup.cwd (.ofLocation f)) (p : Progress) :
    scanFiles setup' p files = scanFiles setup p files := by
  induction files generalizing p with
  | nil => rfl
  | cons file rest ih =>
      obtain ⟨hfile, hrest⟩ := List.forall_mem_cons.1 hread
      have hstep : scanFile setup' p file = scanFile setup p file := by
        rw [scanFile, scanFile, hfile, hoptions, hroot]
      rw [scanFiles, scanFiles, hstep]
      cases scanFile setup p file with
      | ok next => exact ih hrest next
      | error failure => rfl

/-- Over the other files the loop does as it did. -/
theorem scanFiles_without (hdisk : setup.disk.IsSound)
    (hfiles : documents setup.disk setup.cwd paths = .ok files) (hfile : file ∈ files)
    (p : Progress) : scanFiles (setup.without file) p (files.filter (· ≠ file)) =
      scanFiles setup p (files.filter (· ≠ file)) := by
  have hbottom := isBottom_of_documents hdisk hfiles hfile
  have hoptions : (setup.without file).options = setup.options := rfl
  have hroot : (setup.without file).root = setup.root := rfl
  refine scanFiles_congr hoptions hroot ?_ p
  intro f hf
  obtain ⟨hf, hne⟩ := List.mem_filter.1 hf
  exact readDocument_remove hdisk hbottom (mem_keys_of_documents hfiles hf) (by simpa using hne)

/-- The place of a file among those that are found. -/
theorem exists_filter_ne (hnodup : files.Nodup) (hfile : file ∈ files) :
    ∃ before after, files = before ++ file :: after ∧
      files.filter (· ≠ file) = before ++ after := by
  obtain ⟨before, after, rfl⟩ := List.append_of_mem hfile
  refine ⟨before, after, rfl, ?_⟩
  have hnew : file ∉ before ++ after := (List.nodup_middle.1 hnodup |> List.nodup_cons.1).1
  rw [List.filter_append, List.filter_cons]
  simp only [ne_eq, not_true_eq_false, decide_false, Bool.false_eq_true, if_false]
  rw [← List.filter_append, List.filter_eq_self]
  intro l hl
  simpa using ne_of_mem_of_not_mem hl hnew

/-- A report and the report without one file. Of the warnings, that about the file is the one
that is gone. -/
structure IsolatedIn (setup : Setup) (file : Location) (e : ReadError) (files : List Location)
    (report rest : Report) : Prop where
  data : rest.data = report.data
  processed : rest.processed = report.processed
  documents : report.documents = rest.documents + 1
  skipped : report.skipped = rest.skipped + 1
  warnings : ∃ before after, files = before ++ file :: after ∧
    report.warnings = before.filterMap (warningOf? setup) ++
      warning file e :: after.filterMap (warningOf? setup) ∧
    rest.warnings = before.filterMap (warningOf? setup) ++ after.filterMap (warningOf? setup)

theorem isolatedIn_reportOf
    (hread : readDocument setup.disk setup.cwd (.ofLocation file) = .error e)
    (hp : scanFiles setup { store } (before ++ file :: after) = .ok p)
    (hq : scanFiles setup { store } (before ++ after) = .ok q) (halike : p.Alike q) :
    IsolatedIn setup file e (before ++ file :: after) (reportOf (before ++ file :: after) p)
      (reportOf (before ++ after) q) := by
  have hwarning : warningOf? setup file = some (warning file e) := by rw [warningOf?, hread]
  constructor
  case data => rw [reportOf, reportOf, halike.store]
  case processed => rw [reportOf, reportOf, halike.processed]
  case documents =>
    simp only [reportOf, List.length_append, List.length_cons]
    omega
  case skipped =>
    simp only [reportOf, List.length_append, List.length_cons, halike.processed]
    omega
  case warnings =>
    refine ⟨before, after, rfl, ?_, ?_⟩
    · simp [reportOf, (reaches_scanFiles hp).warnings, hwarning]
    · simp [reportOf, (reaches_scanFiles hq).warnings]

/-- A markdown file that cannot be read matters to itself alone. Without it the same other
documents are found, the store and what is logged as a warning are the same, and so is the
report, but for the counts of documents and of skipped ones and for its own warning. Where the
scan ends early it does so without the file too, and for the same reason. -/
theorem scan_without (hdisk : setup.disk.IsSound)
    (hfiles : documents setup.disk setup.cwd paths = .ok files) (hfile : file ∈ files)
    (hmarkdown : isTreeFile (nameOf file) = false)
    (hread : readDocument setup.disk setup.cwd (.ofLocation file) = .error e)
    (htold : e.isTold = true) (store : Store) :
    documents (setup.without file).disk setup.cwd paths = .ok (files.filter (· ≠ file)) ∧
      (scan (setup.without file) store paths).store = (scan setup store paths).store ∧
      (scan (setup.without file) store paths).notices.filter Notice.isWarning =
        (scan setup store paths).notices.filter Notice.isWarning ∧
      (∀ report, (scan setup store paths).report = .ok report →
        ∃ rest, (scan (setup.without file) store paths).report = .ok rest ∧
          IsolatedIn setup file e files report rest) ∧
      ∀ failure, (scan setup store paths).report = .error failure →
        (scan (setup.without file) store paths).report = .error failure := by
  have hbottom := isBottom_of_documents hdisk hfiles hfile
  have hfiles' : documents (setup.without file).disk setup.cwd paths =
      .ok (files.filter (· ≠ file)) := documents_remove hbottom hmarkdown hfiles
  have hloop := scanFiles_without hdisk hfiles hfile
    { store := setup.options.startStore store }
  have hoptions : (setup.without file).options = setup.options := rfl
  have hcwd : (setup.without file).cwd = setup.cwd := rfl
  refine ⟨hfiles', ?_⟩
  simp only [scan, hoptions, hcwd, hfiles, hfiles', hloop]
  obtain ⟨before, after, rfl, hrest⟩ := exists_filter_ne (nodup_documents hfiles) hfile
  rw [hrest]
  have hagree := agree_without hread htold { store := setup.options.startStore store } before after
  generalize hp : scanFiles setup { store := setup.options.startStore store }
    (before ++ file :: after) = r at hagree
  generalize hq : scanFiles setup { store := setup.options.startStore store }
    (before ++ after) = r' at hagree
  cases hagree with
  | ok halike =>
      refine ⟨halike.store.symm, halike.logged.symm, ?_, by simp⟩
      rintro report ⟨⟩
      exact ⟨_, rfl, isolatedIn_reportOf hread hp hq halike⟩
  | error failure halike => exact ⟨halike.store.symm, halike.logged.symm, by simp, by simp⟩

theorem scan_without_fourFiles :
    fourFiles.disk.IsSound ∧ isTreeFile (nameOf ["b.md"]) = false ∧
      ∃ e report rest, readDocument fourFiles.disk fourFiles.cwd (.ofLocation ["b.md"]) = .error e ∧
        e.isTold = true ∧ (scan fourFiles {} [.ofString "."]).report = .ok report ∧
        (scan (fourFiles.without ["b.md"]) {} [.ofString "."]).report = .ok rest ∧
        IsolatedIn fourFiles ["b.md"] e [["a.md"], ["a.mdx"], ["b.md"], ["c.md"]] report rest := by
  have hdisk : fourFiles.disk.IsSound := by decide +kernel
  have hmarkdown : isTreeFile (nameOf ["b.md"]) = false := by decide +kernel
  have hread : readDocument fourFiles.disk fourFiles.cwd (.ofLocation ["b.md"]) =
      .error (.encoding ⟨255, 0, 1, .invalidStart⟩) := by decide +kernel
  obtain ⟨report, hreport⟩ := report_fourFiles
  obtain ⟨-, -, -, hgoes, -⟩ :=
    scan_without hdisk documents_fourFiles (by simp) hmarkdown hread rfl {}
  obtain ⟨rest, hrest, hisolated⟩ := hgoes report hreport
  exact ⟨hdisk, hmarkdown, _, report, rest, hread, rfl, hreport, hrest, hisolated⟩

end LinkIndex.Corpus

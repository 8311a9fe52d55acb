import LinkIndex.Proofs.Corpus.Accounting

/-!
Scans of one corpus into different stores. Where a run begins with nothing, the
store does not matter at all. Otherwise only the data depend on it: under the keys
that the scan records they are what the scan finds, and under all others what the
store held. To scan the corpus once more therefore changes nothing.
-/

namespace LinkIndex.Corpus

variable {setup : Setup} {paths : List Path} {files : List Location} {fresh report : Report}

/-- Where a run begins with nothing, a scan does not hang on the store. -/
theorem scan_of_reset (hreset : setup.options.resetOnRun = true) (store : Store) :
    scan setup store paths = scan setup {} paths := by
  simp only [scan, startStore_of_reset hreset]

/-- The report of a scan into a store, beside the one of the same scan into a new store. -/
structure Continues (setup : Setup) (files : List Location) (old : LinkData)
    (fresh report : Report) : Prop where
  documents : report.documents = fresh.documents
  processed : report.processed = fresh.processed
  skipped : report.skipped = fresh.skipped
  warnings : report.warnings = fresh.warnings
  /-- The links of a recorded key are those that were found, also where none were found that
  lead outside. -/
  recorded : ∀ slug, RecordsUnder setup files slug →
    report.data.lookUp slug = fresh.data.lookUp slug
  kept : ∀ slug, ¬RecordsUnder setup files slug → report.data.lookUp slug = old.lookUp slug

theorem continues_of_reaches {store : Store} {q r : Progress}
    (hq : Reaches setup { store } files q) (hr : Reaches setup { store := {} } files r) :
    Continues setup files store.data (reportOf files r) (reportOf files q) := by
  have hprocessed : q.processed = r.processed := hq.processed.trans hr.processed.symm
  constructor
  case documents => rfl
  case processed => simp only [reportOf, hprocessed]
  case skipped => simp only [reportOf, hprocessed]
  case warnings => exact hq.warnings.trans hr.warnings.symm
  case recorded =>
    intro slug hslug
    simp only [reportOf, hq.store, hr.store]
    exact Store.lookUp_recordAll_of_mem _ _ slug _ ((mem_slugs_entries files slug).2 hslug)
  case kept =>
    intro slug hslug
    simp only [reportOf, hq.store]
    exact Store.lookUp_recordAll_of_not_mem _ _ slug (mt (mem_slugs_entries files slug).1 hslug)

/-- A second scan of the corpus leaves the data as they are. -/
theorem same_of_rescan {store : Store} {again : Report}
    (hreport : (scan setup store paths).report = .ok report)
    (hagain : (scan setup (scan setup store paths).store paths).report = .ok again) :
    again.data.Same (scan setup store paths).store.data := by
  obtain ⟨files, q, hfiles, hfirst, -, hstore, -⟩ := reaches_of_report hreport
  obtain ⟨files', r, hfiles', hsecond, rfl, -, -⟩ := reaches_of_report hagain
  obtain rfl := Except.ok.inj (hfiles.symm.trans hfiles')
  have hdata : (reportOf files r).data = r.store.data := rfl
  rw [hdata, hsecond.store, hstore]
  cases hreset : setup.options.resetOnRun with
  | true =>
      -- Both scans start from nothing and record the same.
      rw [hfirst.store, startStore_of_reset hreset, startStore_of_reset hreset]
      intro slug
      rfl
  | false =>
      rw [startStore_of_keep hreset, hfirst.store]
      exact Store.same_recordAll_again _ _

/-- A scan that gives a report on a new store gives one on every store. It is the
same where runs begin with nothing; elsewhere it continues what the store held, and
in either case a second scan changes nothing more. -/
theorem scan_onto (store : Store) (hfresh : (scan setup {} paths).report = .ok fresh) :
    ∃ files report again, documents setup.disk setup.cwd paths = .ok files ∧
      (scan setup store paths).report = .ok report ∧
      (setup.options.resetOnRun = true →
        report = fresh ∧ (scan setup store paths).notices = (scan setup {} paths).notices) ∧
      (setup.options.resetOnRun = false → Continues setup files store.data fresh report) ∧
      (scan setup (scan setup store paths).store paths).report = .ok again ∧
      again.data.Same (scan setup store paths).store.data := by
  obtain ⟨report, hreport⟩ := exists_report_of_report store hfresh
  obtain ⟨again, hagain⟩ := exists_report_of_report (scan setup store paths).store hfresh
  obtain ⟨files, r, hfiles, hr, rfl, -, -⟩ := reaches_of_report hfresh
  refine ⟨files, report, again, hfiles, hreport, ?_, ?_, hagain, same_of_rescan hreport hagain⟩
  · intro hreset
    have hscan : scan setup store paths = scan setup {} paths := scan_of_reset hreset store
    rw [hscan] at hreport ⊢
    exact ⟨Except.ok.inj (hreport.symm.trans hfresh), rfl⟩
  · intro hkeep
    obtain ⟨files', q, hfiles', hq, rfl, -, -⟩ := reaches_of_report hreport
    obtain rfl := Except.ok.inj (hfiles.symm.trans hfiles')
    rw [startStore_of_keep hkeep] at hq hr
    exact continues_of_reaches hq hr

/-- A store in which a key of `fourFiles` has links that the scan does not find. -/
def outdated : Store :=
  ({} : Store).record "a" ⟨[], [], ["https://example.org"]⟩ none

theorem scan_onto_fourFiles :
    ∃ fresh files report, (scan fourFiles {} [.ofString "."]).report = .ok fresh ∧
      documents fourFiles.disk fourFiles.cwd [.ofString "."] = .ok files ∧
      (scan fourFiles outdated [.ofString "."]).report = .ok report ∧
      Continues fourFiles files outdated.data fresh report := by
  obtain ⟨fresh, hfresh⟩ := report_fourFiles
  obtain ⟨files, report, -, hfiles, hreport, -, hcontinues, -, -⟩ := scan_onto outdated hfresh
  exact ⟨fresh, files, report, hfresh, hfiles, hreport, hcontinues rfl⟩

end LinkIndex.Corpus

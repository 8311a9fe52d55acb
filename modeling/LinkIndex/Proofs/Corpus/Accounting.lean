import LinkIndex.Proofs.Corpus.Documents
import LinkIndex.Proofs.Corpus.Progress

/-!
The numbers of a report, and what it reports. Every file is accounted for once: it
cannot be read and has its warning, or its document is left out, or its document is
recorded. Of the recorded documents each has a key of its own, or takes the place of
another one and is announced; the one that stays is the last in the order of paths.
-/

namespace LinkIndex.Corpus

variable {setup : Setup} {files : List Location}

/-! ### The fates of files -/

/-- The documents of the files that can be read. -/
def loaded (setup : Setup) (files : List Location) : List (Document × Tree) :=
  files.filterMap (documentOf? setup)

/-- A file is read, or there is a warning about it. -/
theorem length_eq_loaded_add_warnings (setup : Setup) (files : List Location) :
    files.length = (loaded setup files).length + (files.filterMap (warningOf? setup)).length := by
  induction files with
  | nil => rfl
  | cons file rest ih =>
      simp only [loaded] at ih
      cases hread : readDocument setup.disk setup.cwd (.ofLocation file) with
      | ok parts =>
          simp only [loaded, documentOf?, warningOf?, hread, List.filterMap_cons, List.length_cons]
            at ih ⊢
          omega
      | error e =>
          simp only [loaded, documentOf?, warningOf?, hread, List.filterMap_cons, List.length_cons]
            at ih ⊢
          omega

theorem entries_eq_filterMap_loaded (setup : Setup) (files : List Location) :
    entries setup files =
      (loaded setup files).filterMap fun x => x.1.handedOver? setup.options {} x.2 := by
  rw [loaded, List.filterMap_filterMap]
  rfl

/-- A document that is read is left out, or it is recorded. -/
theorem length_loaded (setup : Setup) (files : List Location) :
    (loaded setup files).length =
      ((loaded setup files).filter fun x => x.1.LeftOut setup.options).length +
        (entries setup files).length := by
  rw [entries_eq_filterMap_loaded]
  induction loaded setup files with
  | nil => rfl
  | cons x rest ih =>
      by_cases hleft : x.1.LeftOut setup.options
      · have hnone : x.1.handedOver? setup.options {} x.2 = none :=
          Document.handedOver?_eq_none_iff.2 hleft
        simp only [List.filter_cons, hleft, decide_true, if_true, List.filterMap_cons, hnone,
          List.length_cons]
        omega
      · have hsome : x.1.handedOver? setup.options {} x.2 ≠ none :=
          mt Document.handedOver?_eq_none_iff.1 hleft
        obtain ⟨e, he⟩ := Option.ne_none_iff_exists'.1 hsome
        simp only [List.filter_cons, hleft, decide_false, Bool.false_eq_true, if_false,
          List.filterMap_cons, he, List.length_cons]
        omega

/-! ### Sources -/

theorem sources_sublist (setup : Setup) (files : List Location) :
    ((entries setup files).map (·.source)).Sublist (files.map fun file => some file.text) := by
  induction files with
  | nil => exact .slnil
  | cons file rest ih =>
      cases he : handedOver? setup file with
      | none =>
          simp only [entries, List.filterMap_cons, he] at ih ⊢
          exact ih.cons _
      | some e =>
          simp only [entries, List.filterMap_cons, he, List.map_cons,
            source_of_handedOver he] at ih ⊢
          exact ih.cons_cons _

/-- No two entries of a scan come from one source. -/
theorem nodup_sources (hdisk : setup.disk.WellNamed) {paths : List Path}
    (hfiles : documents setup.disk setup.cwd paths = .ok files) :
    ((entries setup files).map (·.source)).Nodup := by
  refine (sources_sublist setup files).nodup ?_
  have htexts := (nodup_texts hdisk hfiles).map fun _ _ => Option.some.inj
  rwa [List.map_map] at htexts

/-! ### The document that stays -/

/-- The last entry under a key comes from the last file with that key. -/
theorem last_file_of_last? {slug : String} {e : Store.Entry}
    (hlast : Store.History.last? (entries setup files) slug = some e) :
    ∃ before file after, files = before ++ file :: after ∧ handedOver? setup file = some e ∧
      ∀ f ∈ after, ∀ e', handedOver? setup f = some e' → e'.slug ≠ slug := by
  induction files using List.reverseRecOn with
  | nil => cases hlast
  | append_singleton files file ih =>
      -- The last file is the one, unless it has no entry or one with another key.
      have hearlier (hlast : Store.History.last? (entries setup files) slug = some e)
          (hfile : ∀ e', handedOver? setup file = some e' → e'.slug ≠ slug) :
          ∃ before f after, files ++ [file] = before ++ f :: after ∧
            handedOver? setup f = some e ∧
            ∀ g ∈ after, ∀ e', handedOver? setup g = some e' → e'.slug ≠ slug := by
        obtain ⟨before, f, after, rfl, hf, hafter⟩ := ih hlast
        refine ⟨before, f, after ++ [file], by simp, hf, ?_⟩
        intro g hg
        obtain hg | hg := List.mem_append.1 hg
        · exact hafter g hg
        · rw [List.mem_singleton.1 hg]
          exact hfile
      rw [entries, List.filterMap_append, ← entries, ← entries, entries_singleton] at hlast
      cases he : handedOver? setup file with
      | none =>
          rw [he, Option.toList_none, List.append_nil] at hlast
          exact hearlier hlast (by simp [he])
      | some e₀ =>
          rw [he, Option.toList_some, Store.History.last?_concat] at hlast
          split at hlast
          · obtain rfl := Option.some.inj hlast
            exact ⟨files, file, [], rfl, he, by simp⟩
          · rename_i hslug
            refine hearlier hlast ?_
            intro e' he'
            rwa [← Option.some.inj (he.symm.trans he')]

/-- Under every key that was recorded the store holds the work of the file with
the greatest path among those of the key. -/
theorem exists_greatest_file (hordered : files.Pairwise fun a b => namesLE a b) {store : Store}
    {slug : String} (hslug : slug ∈ Store.History.slugs (entries setup files)) :
    ∃ file ∈ files, ∃ links, Records setup file slug links ∧
      (∀ other ∈ files, ∀ links', Records setup other slug links' → namesLE other file) ∧
      (store.recordAll (entries setup files)).data.lookUp slug = links.held := by
  cases hlast : Store.History.last? (entries setup files) slug with
  | none => exact absurd hslug (Store.History.last?_eq_none_iff.1 hlast)
  | some e =>
      obtain ⟨before, file, after, rfl, he, hafter⟩ := last_file_of_last? hlast
      have heslug := (Store.History.mem_of_last? hlast).2
      refine ⟨file, by simp, e.links, records_iff.2 ⟨e, he, heslug, rfl⟩, ?_, ?_⟩
      · intro other hother links' hrecords
        obtain ⟨e', he', hslug', -⟩ := records_iff.1 hrecords
        obtain hbefore | rfl | hother := by simpa using hother
        · exact (List.pairwise_append.1 hordered).2.2 other hbefore file (by simp)
        · exact namesLE_refl _
        · exact absurd hslug' (hafter other hother e' he')
      · rw [Store.lookUp_recordAll, hlast]
        rfl

/-! ### The report -/

structure Accounts (setup : Setup) (files : List Location) (report : Report)
    (notices : List Notice) : Prop where
  /-- The files are in the order of paths, each once. -/
  ordered : files.Pairwise fun a b => namesLE a b ∧ a ≠ b
  documents : report.documents = files.length
  balanced : report.documents = report.processed + report.skipped
  skipped : report.skipped = report.warnings.length +
    ((loaded setup files).filter fun x => x.1.LeftOut setup.options).length
  /-- There is one warning for each file that cannot be read, in the order of the files. -/
  warnings : report.warnings = files.filterMap (warningOf? setup)
  processed : report.processed =
    report.data.headings.keys.length + (notices.filterMap Notice.overwrite?).length
  distinct : report.data.headings.keys.Nodup
  recorded : ∀ slug, slug ∈ report.data.headings.keys ↔ RecordsUnder setup files slug
  /-- Of the documents of a key the one with the greatest path stays. -/
  greatest : ∀ slug ∈ report.data.headings.keys, ∃ file ∈ files, ∃ links,
    Records setup file slug links ∧
      (∀ other ∈ files, ∀ links', Records setup other slug links' → namesLE other file) ∧
      report.data.lookUp slug = links.held

/-- A scan into an empty store that comes to its end accounts for all documents
that it found. -/
theorem scan_accounts (hdisk : setup.disk.WellNamed) {paths : List Path} {report : Report}
    (hreport : (scan setup {} paths).report = .ok report) :
    ∃ files, documents setup.disk setup.cwd paths = .ok files ∧
      Accounts setup files report (scan setup {} paths).notices := by
  obtain ⟨files, q, hfiles, hloop, rfl, -, hnotices⟩ := reaches_of_report hreport
  rw [startStore_empty] at hloop
  have hordered := pairwise_documents hfiles
  have hkeys : q.store.data.headings.keys = Store.History.slugs (entries setup files) := by
    rw [hloop.store, Store.keys_headings_recordAll]
  have hprocessed : q.processed = (entries setup files).length := by
    rw [hloop.processed, Nat.zero_add]
  have hwarnings : q.warnings = files.filterMap (warningOf? setup) := hloop.warnings
  -- The two counts that the balance rests on: files are read or warned of, and what is read
  -- is left out or recorded.
  have hread := length_eq_loaded_add_warnings setup files
  have hfates := length_loaded setup files
  refine ⟨files, hfiles, ?_⟩
  constructor
  case ordered => exact List.Pairwise.and hordered (nodup_documents hfiles)
  case documents => rfl
  case balanced =>
    simp only [reportOf]
    omega
  case skipped =>
    simp only [reportOf]
    rw [hprocessed, hwarnings]
    omega
  case warnings => exact hwarnings
  case processed =>
    have hcount := Store.length_eq_slugs_add_overwrites _ (nodup_sources hdisk hfiles)
    rw [hnotices, hloop.overwrites]
    simp only [reportOf, hkeys, hprocessed, List.filterMap_nil, List.nil_append]
    omega
  case distinct =>
    rw [reportOf, hkeys]
    exact Store.History.nodup_slugs _
  case recorded =>
    intro slug
    rw [reportOf, hkeys]
    exact mem_slugs_entries files slug
  case greatest =>
    intro slug hslug
    simp only [reportOf, hkeys] at hslug
    simp only [reportOf, hloop.store]
    exact exists_greatest_file hordered hslug

instance (setup : Setup) (file : Location) : Decidable (Stops setup file) :=
  match hread : readDocument setup.disk setup.cwd (.ofLocation file) with
  | .ok _ => isFalse fun ⟨_, he⟩ => by
      rw [stopsScan_iff, hread] at he
      exact absurd he.1 (by simp)
  | .error e =>
      decidable_of_iff (e.isTold = false) <| by
        simp [Stops, stopsScan_iff, hread]

/-- Two documents of one key, a file that is no text and a draft. -/
def fourFiles : Setup where
  disk := ⟨[(["a.md"], .file (Utf8.encode "[x](/y)".toList)), (["a.mdx"], .file []),
    (["b.md"], .file [255]), (["c.md"], .file (Utf8.encode "---\ndraft: true\n---\n".toList))]⟩
  cwd := []
  root := []
  options := { ignoreDrafts := true }

theorem documents_fourFiles :
    documents fourFiles.disk fourFiles.cwd [.ofString "."] =
      .ok [["a.md"], ["a.mdx"], ["b.md"], ["c.md"]] := by
  have hfound : found fourFiles.disk fourFiles.cwd (.ofString ".") =
      [["a.md"], ["a.mdx"], ["b.md"], ["c.md"]] := by
    decide +kernel
  have hsorted : sortOnce [["a.md"], ["a.mdx"], ["b.md"], ["c.md"]] =
      [["a.md"], ["a.mdx"], ["b.md"], ["c.md"]] :=
    List.mergeSort_of_pairwise (by decide)
  have hstems : treeStems [["a.md"], ["a.mdx"], ["b.md"], ["c.md"]] = .ok [] := rfl
  simp only [documents, List.flatMap_cons, List.flatMap_nil, List.append_nil, hfound, hsorted,
    hstems]
  rfl

theorem report_fourFiles :
    ∃ report, (scan fourFiles {} [.ofString "."]).report = .ok report :=
  ⟨_, report_of_not_stops documents_fourFiles (by decide +kernel)⟩

theorem scan_accounts_fourFiles :
    fourFiles.disk.WellNamed ∧
      ∃ report files, (scan fourFiles {} [.ofString "."]).report = .ok report ∧
        documents fourFiles.disk fourFiles.cwd [.ofString "."] = .ok files ∧
        Accounts fourFiles files report (scan fourFiles {} [.ofString "."]).notices := by
  have hdisk : fourFiles.disk.WellNamed := by decide
  obtain ⟨report, hreport⟩ := report_fourFiles
  obtain ⟨files, hfiles, haccounts⟩ := scan_accounts hdisk hreport
  exact ⟨hdisk, report, files, hreport, hfiles, haccounts⟩

end LinkIndex.Corpus

import LinkIndex.Proofs.Corpus.Failures
import LinkIndex.Proofs.Document.Recording

/-!
How far a scan has come, said by its files. Each file has one of four fates: it
cannot be read, its document is an ignored draft, its document lacks a slug, or its
document is recorded. What the loop does to the store, to its count, to its
warnings and to its notices is one equation each, first for a file and then, by
induction, for all of them.
-/

namespace LinkIndex

namespace Corpus

variable {setup : Setup}

/-- What the document of a file hands over to the store, if it can be read and is
not left out. -/
def handedOver? (setup : Setup) (file : Location) : Option Store.Entry :=
  (documentOf? setup file).bind fun x => x.1.handedOver? setup.options {} x.2

/-- What files hand over to the store. -/
def entries (setup : Setup) (files : List Location) : List Store.Entry :=
  files.filterMap (handedOver? setup)

/-- A file is recorded under a slug with links. -/
def Records (setup : Setup) (file : Location) (slug : String) (links : Links) : Prop :=
  ∃ d t, documentOf? setup file = some (d, t) ∧ d.slug? setup.options {} = some slug ∧
    links = extract setup.options t

def RecordsUnder (setup : Setup) (files : List Location) (slug : String) : Prop :=
  ∃ file ∈ files, ∃ links, Records setup file slug links

theorem records_iff {file : Location} {slug : String} {links : Links} :
    Records setup file slug links ↔
      ∃ e, handedOver? setup file = some e ∧ e.slug = slug ∧ e.links = links := by
  constructor
  · rintro ⟨d, t, hdoc, hslug, rfl⟩
    refine ⟨⟨slug, extract setup.options t, d.resolvedPath?⟩, ?_, rfl, rfl⟩
    rw [handedOver?, hdoc]
    exact (Document.handedOver?_eq_some_iff _).2 ⟨hslug, rfl, rfl⟩
  · rintro ⟨e, he, rfl, rfl⟩
    obtain ⟨⟨d, t⟩, hdoc, hd⟩ := Option.bind_eq_some_iff.1 he
    obtain ⟨hslug, hlinks, -⟩ := (Document.handedOver?_eq_some_iff e).1 hd
    exact ⟨d, t, hdoc, hslug, hlinks⟩

theorem mem_slugs_entries (files : List Location) (slug : String) :
    slug ∈ Store.History.slugs (entries setup files) ↔ RecordsUnder setup files slug := by
  rw [Store.History.mem_slugs]
  constructor
  · rintro ⟨e, he, rfl⟩
    obtain ⟨file, hfile, he⟩ := List.mem_filterMap.1 he
    exact ⟨file, hfile, e.links, records_iff.2 ⟨e, he, rfl, rfl⟩⟩
  · rintro ⟨file, hfile, links, hrecords⟩
    obtain ⟨e, he, hslug, -⟩ := records_iff.1 hrecords
    exact ⟨e, List.mem_filterMap.2 ⟨file, hfile, he⟩, hslug⟩

theorem resolvedPath?_documentAt (root file : Location) (frontmatter : Frontmatter) :
    (documentAt root file frontmatter).resolvedPath? = some file.text := by
  have hne : file.text ≠ "" := by
    intro h
    have hchars := congrArg String.toList h
    simp [Location.text] at hchars
  simp [Document.resolvedPath?, documentAt, hne]

theorem source_of_handedOver {file : Location} {e : Store.Entry}
    (he : handedOver? setup file = some e) : e.source = some file.text := by
  obtain ⟨⟨d, t⟩, hdoc, hd⟩ := Option.bind_eq_some_iff.1 he
  rw [((Document.handedOver?_eq_some_iff e).1 hd).2.2]
  simp only [documentOf?] at hdoc
  split at hdoc
  · obtain ⟨rfl, rfl⟩ := Prod.mk.inj (Option.some.inj hdoc)
    exact resolvedPath?_documentAt ..
  · contradiction

/-! ### The loop -/

structure Reaches (setup : Setup) (p : Progress) (files : List Location) (q : Progress) :
    Prop where
  store : q.store = p.store.recordAll (entries setup files)
  processed : q.processed = p.processed + (entries setup files).length
  warnings : q.warnings = p.warnings ++ files.filterMap (warningOf? setup)
  overwrites : q.notices.filterMap Notice.overwrite? =
    p.notices.filterMap Notice.overwrite? ++ p.store.overwrites (entries setup files)

theorem Reaches.nil (p : Progress) : Reaches setup p [] p where
  store := rfl
  processed := rfl
  warnings := (List.append_nil _).symm
  overwrites := (List.append_nil _).symm

theorem Reaches.trans {p q r : Progress} {files more : List Location}
    (h : Reaches setup p files q) (h' : Reaches setup q more r) :
    Reaches setup p (files ++ more) r where
  store := by
    rw [h'.store, h.store, entries, entries, entries, List.filterMap_append,
      Store.recordAll_append]
  processed := by
    rw [h'.processed, h.processed, entries, entries, entries, List.filterMap_append,
      List.length_append, Nat.add_assoc]
  warnings := by
    rw [h'.warnings, h.warnings, List.filterMap_append, List.append_assoc]
  overwrites := by
    rw [h'.overwrites, h.overwrites, h.store, entries, entries, entries, List.filterMap_append,
      Store.overwrites_append, List.append_assoc]

theorem entries_singleton (file : Location) :
    entries setup [file] = (handedOver? setup file).toList := by
  cases h : handedOver? setup file <;> simp [entries, h]

theorem reaches_scanFile {p q : Progress} {file : Location} (hq : scanFile setup p file = .ok q) :
    Reaches setup p [file] q := by
  rw [scanFile] at hq
  cases hread : readDocument setup.disk setup.cwd (.ofLocation file) with
  | error e =>
      -- Nothing is handed over; there is a warning, or the scan would have ended here.
      simp only [hread] at hq
      have hnone : handedOver? setup file = none := by simp [handedOver?, documentOf?, hread]
      have hentries : entries setup [file] = [] := by rw [entries_singleton, hnone]; rfl
      split at hq
      · obtain rfl := Except.ok.inj hq
        constructor
        · rw [hentries, Store.recordAll_nil]
        · rw [hentries, List.length_nil, Nat.add_zero]
        · simp [warningOf?, hread]
        · simp [hentries, Store.overwrites, Notice.overwrite?]
      · cases hq
  | ok parts =>
      -- Whether the document is left out only matters to the count.
      obtain ⟨frontmatter, t⟩ := parts
      simp only [hread] at hq
      obtain rfl := Except.ok.inj hq
      have hsome : handedOver? setup file =
          (documentAt setup.root file frontmatter).handedOver? setup.options {} t := by
        simp [handedOver?, documentOf?, hread]
      constructor
      · rw [entries_singleton, hsome, Document.process_store]
      · rw [entries_singleton, hsome, Document.process_links, Nat.add_left_cancel_iff]
        split
        · rename_i hleft
          rw [Document.handedOver?_eq_none_iff.2 hleft]
          rfl
        · rename_i hrecorded
          obtain ⟨e, he⟩ :=
            Option.ne_none_iff_exists'.1 (mt Document.handedOver?_eq_none_iff.1 hrecorded)
          rw [he]
          rfl
      · simp [warningOf?, hread]
      · rw [entries_singleton, hsome, List.filterMap_append, Document.process_overwrites]

theorem reaches_scanFiles {p q : Progress} {files : List Location}
    (hq : scanFiles setup p files = .ok q) : Reaches setup p files q := by
  induction files generalizing p with
  | nil =>
      rw [scanFiles, Except.ok.injEq] at hq
      rw [← hq]
      exact .nil p
  | cons file rest ih =>
      rw [scanFiles] at hq
      split at hq
      · rename_i next hnext
        exact (reaches_scanFile hnext).trans (ih hq)
      · cases hq

/-! ### A scan that comes to its end -/

variable {store : Store} {paths : List Path} {report : Report}

theorem startStore_of_reset {options : Options} (hreset : options.resetOnRun = true)
    (store : Store) : options.startStore store = {} := by
  rw [Options.startStore, if_pos hreset, Store.reset]

theorem startStore_of_keep {options : Options} (hkeep : options.resetOnRun = false)
    (store : Store) : options.startStore store = store := by
  rw [Options.startStore, hkeep, if_neg Bool.false_ne_true]

theorem startStore_empty (options : Options) : options.startStore {} = {} := by
  cases hreset : options.resetOnRun with
  | true => exact startStore_of_reset hreset _
  | false => exact startStore_of_keep hreset _

/-- A scan that gives a report has gone through all of its files. -/
theorem reaches_of_report (hreport : (scan setup store paths).report = .ok report) :
    ∃ files q, documents setup.disk setup.cwd paths = .ok files ∧
      Reaches setup { store := setup.options.startStore store } files q ∧
      report = reportOf files q ∧ (scan setup store paths).store = q.store ∧
      (scan setup store paths).notices = q.notices := by
  simp only [scan] at hreport ⊢
  cases hfiles : documents setup.disk setup.cwd paths with
  | error e => simp [hfiles] at hreport
  | ok files =>
      simp only [hfiles] at hreport ⊢
      cases hloop : scanFiles setup { store := setup.options.startStore store } files with
      | error e => simp [hloop] at hreport
      | ok q =>
          simp only [hloop, Except.ok.injEq] at hreport
          exact ⟨files, q, rfl, reaches_scanFiles hloop, hreport.symm, rfl, rfl⟩

/-- Whether a scan gives a report does not depend on the store. -/
theorem exists_report_of_report (store' : Store)
    (hreport : (scan setup store paths).report = .ok report) :
    ∃ report', (scan setup store' paths).report = .ok report' := by
  obtain ⟨files, -, hfiles, -⟩ := reaches_of_report hreport
  -- A scan ends early on account of a file, never on account of the store.
  by_cases hstop : ∃ file ∈ files, Stops setup file
  · obtain ⟨before, file, after, hsplit, hbefore, e, he⟩ := exists_first_stop hstop
    rw [report_of_stopsScan hfiles before hsplit hbefore he] at hreport
    contradiction
  · exact ⟨_, report_of_not_stops hfiles fun file hfile h => hstop ⟨file, hfile, h⟩⟩

end Corpus

end LinkIndex

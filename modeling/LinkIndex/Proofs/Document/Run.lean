import LinkIndex.Proofs.Document.Recording

/-!
Documents that are processed one after the other, into one store and with one
source of names. A run keeps account of the documents that were recorded and of
their keys; its store, its results and its notices are then functions of the
documents, and each is proved by following one document more.
-/

namespace LinkIndex

structure Run where
  store : Store
  names : Slug.Names
  /-- The documents that were recorded, each with its key. -/
  recorded : List (String × Document × Tree) := []
  /-- The links of every document, with none for those that were left out. -/
  results : List (Option Links) := []
  notices : List Notice := []

namespace Run

/-- Goes on with one document. -/
def next (options : Options) (run : Run) (x : Document × Tree) : Run :=
  let outcome := x.1.process options run.store run.names x.2
  { store := outcome.store
    names := outcome.names
    recorded := run.recorded ++ ((x.1.slug? options run.names).map (·, x)).toList
    results := run.results ++ [outcome.links]
    notices := run.notices ++ outcome.notices }

def through (options : Options) (store : Store) (names : Slug.Names)
    (docs : List (Document × Tree)) : Run :=
  docs.foldl (next options) { store, names }

def entryOf (options : Options) (r : String × Document × Tree) : Store.Entry :=
  ⟨r.1, extract options r.2.2, r.2.1.resolvedPath?⟩

/-- What a run handed over to the store. -/
def entries (options : Options) (run : Run) : List Store.Entry :=
  run.recorded.map (entryOf options)

/-- The document of a run whose results stand under a key. -/
def holder? (run : Run) (slug : String) : Option (Document × Tree) :=
  ((run.recorded.filter (·.1 = slug)).getLast?).map (·.2)

variable (options : Options) (store : Store) (names : Slug.Names)
  (docs : List (Document × Tree)) (x : Document × Tree)

theorem through_concat :
    through options store names (docs ++ [x]) = (through options store names docs).next options x :=
  List.foldl_concat ..

theorem entries_next (run : Run) :
    (run.next options x).entries options =
      run.entries options ++ (x.1.handedOver? options run.names x.2).toList := by
  rw [entries, next, List.map_append, Document.handedOver?]
  cases x.1.slug? options run.names <;> rfl

theorem last?_entries (run : Run) (slug : String) :
    Store.History.last? (run.entries options) slug =
      (run.holder? slug).map fun y => entryOf options (slug, y) := by
  have hfilter : (run.entries options).filter (·.slug = slug) =
      (run.recorded.filter (·.1 = slug)).map (entryOf options) := by
    rw [entries, List.filter_map]
    rfl
  rw [Store.History.last?, hfilter, List.getLast?_map, holder?, Option.map_map]
  cases hlast : (run.recorded.filter (·.1 = slug)).getLast? with
  | none => rfl
  | some r =>
      have hslug : r.1 = slug := by
        simpa using (List.mem_filter.1 (List.mem_of_getLast? hlast)).2
      rw [← hslug]
      rfl

/-! ### What a run comes to -/

theorem store_through :
    (through options store names docs).store =
      store.recordAll ((through options store names docs).entries options) := by
  induction docs using List.reverseRecOn with
  | nil => rfl
  | append_singleton docs x ih =>
      rw [through_concat, entries_next, Store.recordAll_append, ← ih]
      exact Document.process_store ..

theorem overwrites_through :
    (through options store names docs).notices.filterMap Notice.overwrite? =
      store.overwrites ((through options store names docs).entries options) := by
  induction docs using List.reverseRecOn with
  | nil => rfl
  | append_singleton docs x ih =>
      rw [through_concat, entries_next, Store.overwrites_append, ← ih, ← store_through, next,
        List.filterMap_append, Document.process_overwrites]

theorem results_through :
    (through options store names docs).results =
      docs.map fun x => if x.1.LeftOut options then none else some (extract options x.2) := by
  induction docs using List.reverseRecOn with
  | nil => rfl
  | append_singleton docs x ih =>
      rw [through_concat, next, ih, Document.process_links, List.map_append]
      rfl

theorem slugMissing_through :
    (through options store names docs).notices.filter Notice.isSlugMissing =
      docs.flatMap fun x =>
        if ¬x.1.IsIgnoredDraft options ∧ x.1.LacksSlug options then
          [.slugMissing x.1.resolvedPath?]
        else [] := by
  induction docs using List.reverseRecOn with
  | nil => rfl
  | append_singleton docs x ih =>
      rw [through_concat, next, List.filter_append, ih, Document.process_slugMissing,
        List.flatMap_append, List.flatMap_singleton]

theorem recorded_subset {r : String × Document × Tree}
    (hr : r ∈ (through options store names docs).recorded) : r.2 ∈ docs := by
  induction docs using List.reverseRecOn with
  | nil => cases hr
  | append_singleton docs x ih =>
      rw [through_concat, next, List.mem_append] at hr
      rw [List.mem_append]
      obtain hold | hnew := hr
      · exact .inl (ih hold)
      · obtain ⟨slug, -, hpair⟩ := Option.map_eq_some_iff.1 (Option.mem_toList.1 hnew)
        exact .inr (by simp [← hpair])

/-- Documents with a path use up no names, and their keys do not hang on them. -/
theorem through_of_paths (hpaths : ∀ x ∈ docs, x.1.resolvedPath? ≠ none) :
    (through options store names docs).names = names ∧
      (through options store names docs).entries options =
        docs.filterMap fun x => x.1.handedOver? options {} x.2 := by
  induction docs using List.reverseRecOn with
  | nil => exact ⟨rfl, rfl⟩
  | append_singleton docs x ih =>
      have hpath : x.1.resolvedPath? ≠ none := hpaths x (by simp)
      obtain ⟨hnames, hentries⟩ := ih fun y hy => hpaths y (by simp [hy])
      constructor
      · rw [through_concat, next, Document.process_names_of_path _ _ _ _ _ hpath, hnames]
      · rw [through_concat, entries_next, hentries, Document.handedOver?_of_path hpath,
          List.filterMap_append]
        cases hx : x.1.handedOver? options {} x.2 <;> simp [hx]

end Run

end LinkIndex

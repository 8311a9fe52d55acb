import LinkIndex.Proofs.Document.Run

/-!
Documents of one run and their keys. Where no two keys are the same, the order of
the documents does not matter and nothing is overwritten. Where two are the same,
the later document takes the place of the earlier one, and this is told, unless
neither of them has a path: a store knows documents by their paths alone, and
takes two documents without one for the same document.
-/

namespace LinkIndex.Run

variable {options : Options} {store : Store} {names : Slug.Names}
  {docs docs' before : List (Document × Tree)} {x y : Document × Tree} {slug : String}

/-! ### Documents that do not collide -/

theorem slugs_handedOver :
    (docs.filterMap fun x => x.1.handedOver? options names x.2).map (·.slug) =
      docs.filterMap fun x => x.1.slug? options names := by
  rw [List.map_filterMap]
  congr 1
  funext x
  rw [Document.handedOver?, Option.map_map]
  exact Option.map_id'

/-- The keys of documents with a path are their own, whatever names are left. -/
theorem slugs_of_paths (hpaths : ∀ x ∈ docs, x.1.resolvedPath? ≠ none) :
    (docs.filterMap fun x => x.1.slug? options names) =
      docs.filterMap fun x => x.1.slug? options {} :=
  List.filterMap_congr fun x hx => Document.slug?_of_path (hpaths x hx)

/-- Documents that all have a path, and of which no two are recorded under one
key, may be processed in any order. Every document has one result, wherever it
stands; the data are the same under every key, the same documents are told of for
want of a slug, and no overwriting is told. -/
theorem through_perm (names names' : Slug.Names) (hperm : docs.Perm docs')
    (hpaths : ∀ x ∈ docs, x.1.resolvedPath? ≠ none)
    (hslugs : (docs.filterMap fun x => x.1.slug? options names).Nodup) :
    let run := through options {} names docs
    let run' := through options {} names' docs'
    (∃ result : Document × Tree → Option Links,
        run.results = docs.map result ∧ run'.results = docs'.map result) ∧
      run.store.data.Same run'.store.data ∧
      (run.notices.filter Notice.isSlugMissing).Perm (run'.notices.filter Notice.isSlugMissing) ∧
      run.notices.filterMap Notice.overwrite? = [] ∧
      run'.notices.filterMap Notice.overwrite? = [] := by
  intro run run'
  have hpaths' : ∀ x ∈ docs', x.1.resolvedPath? ≠ none :=
    fun x hx => hpaths x (hperm.mem_iff.2 hx)
  have hentries := (through_of_paths options {} names docs hpaths).2
  have hentries' := (through_of_paths options {} names' docs' hpaths').2
  -- No document uses up a name, so what each hands over is the same wherever it stands.
  have hentriesPerm : (run.entries options).Perm (run'.entries options) := by
    rw [hentries, hentries']
    exact hperm.filterMap _
  have hnd : ((run.entries options).map (·.slug)).Nodup := by
    rw [hentries, slugs_handedOver, ← slugs_of_paths hpaths]
    exact hslugs
  have hnd' : ((run'.entries options).map (·.slug)).Nodup :=
    (hentriesPerm.map _).nodup_iff.1 hnd
  refine ⟨⟨_, results_through .., results_through ..⟩, ?_, ?_, ?_, ?_⟩
  · intro slug
    rw [store_through, store_through, Store.lookUp_recordAll, Store.lookUp_recordAll,
      Store.History.last?_perm hentriesPerm hnd]
  · rw [slugMissing_through, slugMissing_through]
    exact hperm.flatMap_right _
  · rw [overwrites_through, Store.overwrites_eq_nil_of_nodup _ hnd]
  · rw [overwrites_through, Store.overwrites_eq_nil_of_nodup _ hnd']

def page (path : Option String) (frontmatter : Frontmatter) (url : String) : Document × Tree :=
  ({ path, cwd := "/site", frontmatter },
    .element .root [.element (.container "paragraph") [.element (.link url none) []]])

/-- Two documents with slugs of their own, one without a slug and a draft. -/
def fourPages : List (Document × Tree) :=
  [page (some "/site/a.md") [(.str "slug", .str "first")] "/x",
    page (some "/site/b.md") [] "/y",
    page (some "/site/c.md") [(.str "draft", .bool true)] "/z",
    page (some "/site/d.md") [(.str "slug", .str "second")] "/w"]

theorem through_perm_fourPages :
    let options : Options := { ignoreDrafts := true, keyBySlug := true }
    let run := through options {} {} fourPages
    let run' := through options {} {} fourPages.reverse
    fourPages.Perm fourPages.reverse ∧
      (∀ x ∈ fourPages, x.1.resolvedPath? ≠ none) ∧
      (fourPages.filterMap fun x => x.1.slug? options {}) = ["first", "second"] ∧
      run.store.data.internal = [("first", ["/x"]), ("second", ["/w"])] ∧
      run.store.data.Same run'.store.data ∧
      (run.notices.filter Notice.isSlugMissing).Perm
        (run'.notices.filter Notice.isSlugMissing) := by
  intro options run run'
  have hperm : fourPages.Perm fourPages.reverse := (List.reverse_perm _).symm
  have hpaths : ∀ x ∈ fourPages, x.1.resolvedPath? ≠ none := by decide
  have hslugs : (fourPages.filterMap fun x => x.1.slug? options {}) = ["first", "second"] := by
    decide
  obtain ⟨-, hdata, hmissing, -⟩ :=
    through_perm {} {} hperm hpaths (by rw [hslugs]; decide)
  exact ⟨hperm, hpaths, hslugs, by decide +kernel, hdata, hmissing⟩

/-! ### Documents that collide -/

/-- What the store holds under a key is the work of the document that holds it. -/
theorem lookUp_of_holder (hholder : (through options store names docs).holder? slug = some y) :
    (through options store names docs).store.data.lookUp slug = (extract options y.2).held := by
  rw [store_through, Store.lookUp_recordAll, last?_entries, hholder]
  rfl

theorem mem_of_holder (hholder : (through options store names docs).holder? slug = some y) :
    y ∈ docs := by
  obtain ⟨r, hr, rfl⟩ := Option.map_eq_some_iff.1 hholder
  exact recorded_subset _ _ _ _ (List.mem_of_mem_filter (List.mem_of_getLast? hr))

theorem get?_sources_of_holder
    (hholder : (through options store names docs).holder? slug = some y) :
    (through options store names docs).store.sources.get? slug = some y.1.resolvedPath? := by
  rw [store_through, Store.get?_sources_recordAll, last?_entries, hholder]
  rfl

/-- Two documents of which no path is known to be the same have the same source
only if they have none. -/
theorem source_eq_iff (hpaths : ((before ++ [x]).filterMap (·.1.resolvedPath?)).Nodup)
    (hy : y ∈ before) :
    y.1.resolvedPath? = x.1.resolvedPath? ↔
      x.1.resolvedPath? = none ∧ y.1.resolvedPath? = none := by
  constructor
  · intro hsame
    cases hpath : x.1.resolvedPath? with
    | none => exact ⟨rfl, hsame.trans hpath⟩
    | some path =>
        rw [List.filterMap_append, List.nodup_append] at hpaths
        have hyPath : path ∈ before.filterMap (·.1.resolvedPath?) :=
          List.mem_filterMap.2 ⟨y, hy, hsame.trans hpath⟩
        have hxPath : path ∈ [x].filterMap (·.1.resolvedPath?) := by simp [hpath]
        exact absurd rfl (hpaths.2.2 path hyPath path hxPath)
  · rintro ⟨hx, hy⟩
    rw [hx, hy]

/-- In a run over documents of which no two have one path, let `y` hold the key
under which `x` is recorded next. The results of `y` are then lost to those of
`x`, and this is told, with both paths, just where one of the two has a path. -/
theorem overwriting_told_iff (hpaths : ((before ++ [x]).filterMap (·.1.resolvedPath?)).Nodup)
    (hslug : x.1.slug? options (through options store names before).names = some slug)
    (hholder : (through options store names before).holder? slug = some y) :
    let run := through options store names before
    let outcome := x.1.process options run.store run.names x.2
    y ∈ before ∧
      run.store.data.lookUp slug = (extract options y.2).held ∧
      outcome.store.data.lookUp slug = (extract options x.2).held ∧
      outcome.notices.filterMap Notice.overwrite? =
        if x.1.resolvedPath? = none ∧ y.1.resolvedPath? = none then []
        else [⟨slug, x.1.resolvedPath?, y.1.resolvedPath?⟩] := by
  intro run outcome
  have hy := mem_of_holder hholder
  have hentry : x.1.handedOver? options run.names x.2 =
      some ⟨slug, extract options x.2, x.1.resolvedPath?⟩ := by
    rw [Document.handedOver?, hslug]
    rfl
  refine ⟨hy, lookUp_of_holder hholder, ?_, ?_⟩
  · rw [Document.process_store, hentry, Option.toList_some, Store.recordAll_singleton,
      Store.lookUp_record, if_pos rfl]
  · rw [Document.process_overwrites, hentry, Option.toList_some, Store.overwrites_singleton,
      Store.overwriteOf?, get?_sources_of_holder hholder]
    by_cases hnone : x.1.resolvedPath? = none ∧ y.1.resolvedPath? = none
    · simp [hnone]
    · have hne := mt (source_eq_iff hpaths hy).1 hnone
      simp [hnone, hne]

def pageSlug : Frontmatter := [(.str "slug", .str "page")]

/-- A document with a path takes the place of one without, and this is told. -/
theorem overwriting_told_byPath :
    let options : Options := { keyBySlug := true }
    let x := page (some "/site/b.md") pageSlug "/b"
    let y := page none pageSlug "/a"
    let run := through options {} {} [y]
    (([y] ++ [x]).filterMap (·.1.resolvedPath?)).Nodup ∧
      x.1.slug? options run.names = some "page" ∧ run.holder? "page" = some y ∧
      (x.1.process options run.store run.names x.2).notices.filterMap Notice.overwrite? =
        [⟨"page", some "/site/b.md", none⟩] := by
  intro options x y run
  have hpaths : (([y] ++ [x]).filterMap (·.1.resolvedPath?)).Nodup := by decide
  have hslug : x.1.slug? options run.names = some "page" := by decide
  have hholder : run.holder? "page" = some y := rfl
  obtain ⟨-, -, -, htold⟩ := overwriting_told_iff hpaths hslug hholder
  exact ⟨hpaths, hslug, hholder, htold⟩

/-- Of two documents without a path that go by one slug, the results of the first
are lost without a warning. -/
theorem overwriting_untold :
    let options : Options := { keyBySlug := true }
    let docs := [page none pageSlug "/a", page none pageSlug "/b"]
    (docs.filterMap (·.1.resolvedPath?)).Nodup ∧
      (through options {} {} (docs.take 1)).store.data.internal = [("page", ["/a"])] ∧
      (through options {} {} docs).store.data.internal = [("page", ["/b"])] ∧
      (through options {} {} docs).notices.filter Notice.isWarning = [] := by
  decide +kernel

end LinkIndex.Run

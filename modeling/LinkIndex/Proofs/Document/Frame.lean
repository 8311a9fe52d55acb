import LinkIndex.Proofs.Document.Recording
import LinkIndex.Proofs.Slug.Frontmatter

/-!
Which keys a document touches. One that is left out touches none, and no name is used up
for it. Any other one is recorded under its own key, and beside that key a store stays as it
was: what stands under the other keys, and the order in which they stand.
-/

namespace LinkIndex

/-! ### Documents that are left out -/

/-- A document is a draft by any value but one that counts as absent. -/
theorem Frontmatter.isDraft_iff {f : Frontmatter} :
    f.isDraft = true ↔ ∃ v, f.get? "draft" = some v ∧ v.isFalsy = false := by
  simp [isDraft, Option.any_eq_true]

theorem Document.leftOut_iff {options : Options} {d : Document} :
    d.LeftOut options ↔
      (options.ignoreDrafts ∧ ∃ v, d.frontmatter.get? "draft" = some v ∧ v.isFalsy = false) ∨
        (options.keyBySlug ∧
          ∀ s, d.frontmatter.get? "slug" = some (.str s) → s = "" ∨ s = "/") := by
  rw [LeftOut, IsIgnoredDraft, LacksSlug, Frontmatter.isDraft_iff,
    Frontmatter.documentSlug?_eq_none_iff]

/-! ### Stores beside one key -/

namespace Store

/-- Two stores are the same but for one key: without it, each of their lists has the same
entries in the same order. -/
structure SameBeside (slug : String) (s s' : Store) : Prop where
  headings : s'.data.headings.erase slug = s.data.headings.erase slug
  internal : s'.data.internal.erase slug = s.data.internal.erase slug
  external : s'.data.external.erase slug = s.data.external.erase slug
  sources : s'.sources.erase slug = s.sources.erase slug

theorem sameBeside_record (s : Store) (slug : String) (links : Links) (source : Option String) :
    s.SameBeside slug (s.record slug links source) where
  headings := Assoc.erase_put ..
  internal := Assoc.erase_put ..
  external := by
    by_cases hexternal : links.external = []
    · simp only [record, hexternal, if_true, Assoc.erase_erase]
    · simp only [record, hexternal, if_false, Assoc.erase_put]
  sources := Assoc.erase_put ..

/-- Under the other keys the same is found. -/
theorem SameBeside.lookUp_eq {s s' : Store} {slug other : String} (h : s.SameBeside slug s')
    (hother : slug ≠ other) : s'.data.lookUp other = s.data.lookUp other := by
  have hget {m m' : Assoc String (List String)} (hsame : m'.erase slug = m.erase slug) :
      m'.get? other = m.get? other := by
    rw [← Assoc.get?_erase_of_ne m' hother, hsame, Assoc.get?_erase_of_ne m hother]
  rw [LinkData.lookUp, LinkData.lookUp, hget h.headings, hget h.internal, hget h.external]

end Store

namespace Document

variable {options : Options} {names : Slug.Names} {d : Document}

/-- A name is used up just where a document has no path and is not known by its slug. -/
theorem key?_names {slug : String} {rest : Slug.Names}
    (hkey : d.key? options names = some (slug, rest)) :
    rest = if options.keyBySlug = false ∧ d.resolvedPath? = none then names.claim.2 else names := by
  rw [key?, if_neg (not_leftOut_of_key? hkey)] at hkey
  by_cases hmode : options.keyBySlug
  · rw [if_pos hmode] at hkey
    obtain ⟨_, -, hpair⟩ := Option.map_eq_some_iff.1 hkey
    simp [hmode, (Prod.mk.inj hpair).2]
  · rw [if_neg hmode, Option.some_inj, pathSlug] at hkey
    cases hpath : d.resolvedPath? with
    | none =>
        rw [hpath] at hkey
        rw [if_pos ⟨by simpa using hmode, rfl⟩]
        exact (Prod.mk.inj hkey).2.symm
    | some path =>
        rw [hpath] at hkey
        rw [if_neg (by simp)]
        exact (Prod.mk.inj hkey).2.symm

/-- Processing a document touches one key at most. A document is left out just where drafts are
ignored and its `draft` has a value that counts as present, or where slugs are the keys and its
`slug` is no text or has nothing but a slash; then the store and the names stay as they are. A
missing slug is told just where it is the reason. Any other document has its links under its
key, none of them among the external ones where it has no such links, and beside that key each
list of the store has the entries that it had, in the same order. -/
theorem process_touches_one_key (options : Options) (store : Store) (names : Slug.Names)
    (d : Document) (t : Tree) :
    let outcome := d.process options store names t
    ((outcome.links = none ↔ d.LeftOut options) ∧
        (d.LeftOut options ↔
          (options.ignoreDrafts ∧ ∃ v, d.frontmatter.get? "draft" = some v ∧ v.isFalsy = false) ∨
            (options.keyBySlug ∧
              ∀ s, d.frontmatter.get? "slug" = some (.str s) → s = "" ∨ s = "/"))) ∧
      (d.LeftOut options → outcome.store = store ∧ outcome.names = names) ∧
      ((outcome.notices.filter Notice.isSlugMissing).map fun n => (n.severity, n.message)) =
        (if ¬d.IsIgnoredDraft options ∧ d.LacksSlug options then
          [(.warning, "No slug found for file: " ++ sourceName d.resolvedPath?)]
        else []) ∧
      (¬d.LeftOut options → outcome.links = some (extract options t) ∧
        (outcome.names = if options.keyBySlug = false ∧ d.resolvedPath? = none then names.claim.2
          else names) ∧
        ∃ slug, d.slug? options names = some slug ∧
          outcome.store.data.lookUp slug = (extract options t).held ∧
          store.SameBeside slug outcome.store ∧
          ∀ other, slug ≠ other → outcome.store.data.lookUp other = store.data.lookUp other) := by
  intro outcome
  refine ⟨⟨?links, leftOut_iff⟩, fun hleft => ?unchanged, ?told, fun hleft => ?recorded⟩
  case links =>
    rw [process_links]
    split <;> simp [*]
  case unchanged =>
    have hprocess : outcome = ⟨none, store, names, [d.omission options]⟩ :=
      process_of_leftOut hleft
    rw [hprocess]
    exact ⟨rfl, rfl⟩
  case told =>
    rw [process_slugMissing]
    split <;> rfl
  case recorded =>
    obtain ⟨⟨slug, rest⟩, hkey⟩ := Option.ne_none_iff_exists'.1 (mt key?_eq_none_iff.1 hleft)
    have hprocess : outcome = d.recordAs options store rest t slug := process_of_key? hkey
    have hbeside : store.SameBeside slug outcome.store := by
      rw [hprocess]
      exact store.sameBeside_record slug (extract options t) d.resolvedPath?
    refine ⟨by rw [process_links, if_neg hleft], ?_, slug, ?_, ?_, hbeside,
      fun other => hbeside.lookUp_eq⟩
    · rw [hprocess, ← key?_names hkey]
      rfl
    · rw [slug?, hkey]
      rfl
    · rw [hprocess]
      exact (Store.lookUp_record store ⟨slug, extract options t, d.resolvedPath?⟩ slug).trans
        (if_pos rfl)

/-- A page with external links, and in front of it and behind it others. -/
def linkedStore : Store :=
  (({} : Store).recordAll [⟨"first", ⟨["top"], [], ["https://first"]⟩, none⟩,
    ⟨"page", ⟨[], [], ["https://page"]⟩, some "/site/page.md"⟩,
    ⟨"last", ⟨[], ["/x"], ["https://last"]⟩, none⟩])

/-- The page again, now with an internal link, and as a draft. -/
theorem process_touches_one_key_page :
    let page : Document := { path := some "/site/page.md", cwd := "/site" }
    let draft : Document := { page with frontmatter := [(.str "draft", .int 1)] }
    let t := Tree.root [.element (.link "/y" none) []]
    let outcome := page.process {} linkedStore {} t
    (¬page.LeftOut {} ∧ linkedStore.data.lookUp "page" = ⟨some [], some [], some ["https://page"]⟩ ∧
      outcome.store.data.lookUp "page" = ⟨some [], some ["/y"], none⟩ ∧
      linkedStore.SameBeside "page" outcome.store) ∧
    draft.LeftOut { ignoreDrafts := true } ∧
      (draft.process { ignoreDrafts := true } linkedStore {} t).store = linkedStore := by
  intro page draft t outcome
  have hpage : ¬page.LeftOut {} := by decide
  have hdraft : draft.LeftOut { ignoreDrafts := true } := by decide
  have hslug : page.slug? {} {} = some "page" := by decide
  have hlinks : (extract {} t).held = ⟨some [], some ["/y"], none⟩ := by decide +kernel
  obtain ⟨-, -, -, hrecorded⟩ := process_touches_one_key {} linkedStore {} page t
  obtain ⟨-, -, slug, hslug', hheld, hbeside, -⟩ := hrecorded hpage
  obtain rfl : slug = "page" := Option.some.inj (hslug'.symm.trans hslug)
  obtain ⟨-, hunchanged, -⟩ :=
    process_touches_one_key { ignoreDrafts := true } linkedStore {} draft t
  exact ⟨⟨hpage, by decide, hheld.trans hlinks, hbeside⟩, hdraft, (hunchanged hdraft).1⟩

end Document

end LinkIndex

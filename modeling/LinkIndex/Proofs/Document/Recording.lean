import LinkIndex.Document
import LinkIndex.Proofs.Store.Overlay

/-!
What becomes of one document. It is left out, or it hands one entry over to the
store. Everything that processing does is said of that entry: the store after it,
the links that come back, the overwriting that is told and the names that are
used up. So a run over documents is known by the entries that they hand over.
-/

namespace LinkIndex

namespace Notice

/-- The overwriting that a notice tells of. -/
def overwrite? : Notice → Option Overwrite
  | .overwritten o => some o
  | _ => none

def isSlugMissing : Notice → Bool
  | .slugMissing _ => true
  | _ => false

end Notice

namespace Document

variable (options : Options) (store : Store) (names : Slug.Names) (d : Document) (t : Tree)

def IsIgnoredDraft : Prop :=
  options.ignoreDrafts ∧ d.frontmatter.isDraft

/-- Documents without a slug lack it where slugs are the keys. -/
def LacksSlug : Prop :=
  options.keyBySlug ∧ d.frontmatter.documentSlug? = none

def LeftOut : Prop :=
  d.IsIgnoredDraft options ∨ d.LacksSlug options

instance : Decidable (d.IsIgnoredDraft options) :=
  inferInstanceAs (Decidable (_ ∧ _))

instance : Decidable (d.LacksSlug options) :=
  inferInstanceAs (Decidable (_ ∧ _))

instance : Decidable (d.LeftOut options) :=
  inferInstanceAs (Decidable (_ ∨ _))

/-- The key of a document, unless it is left out, and the names that are left. -/
def key? : Option (String × Slug.Names) :=
  if d.LeftOut options then none
  else if options.keyBySlug then d.frontmatter.documentSlug?.map (·, names)
  else some (d.pathSlug names)

/-- The slug under which a document is recorded, unless it is left out. -/
def slug? : Option String :=
  (d.key? options names).map (·.1)

/-- What a document hands over to the store, unless it is left out. -/
def handedOver? : Option Store.Entry :=
  (d.slug? options names).map fun slug => ⟨slug, extract options t, d.resolvedPath?⟩

variable {options store names d t}

theorem key?_eq_none_iff : d.key? options names = none ↔ d.LeftOut options := by
  rw [key?]
  by_cases hleft : d.LeftOut options
  · simp [hleft]
  · have hslug : options.keyBySlug = true → d.frontmatter.documentSlug? ≠ none :=
      fun hkey hnone => hleft (.inr ⟨hkey, hnone⟩)
    by_cases hkey : options.keyBySlug <;> simp [hleft, hkey, hslug]

theorem not_leftOut_of_key? {key : String × Slug.Names} (hkey : d.key? options names = some key) :
    ¬d.LeftOut options := by
  intro hleft
  rw [key?_eq_none_iff.2 hleft] at hkey
  contradiction

theorem slug?_eq_none_iff : d.slug? options names = none ↔ d.LeftOut options := by
  rw [slug?, Option.map_eq_none_iff, key?_eq_none_iff]

theorem handedOver?_eq_none_iff : d.handedOver? options names t = none ↔ d.LeftOut options := by
  rw [handedOver?, Option.map_eq_none_iff, slug?_eq_none_iff]

theorem handedOver?_eq_some_iff (e : Store.Entry) :
    d.handedOver? options names t = some e ↔
      d.slug? options names = some e.slug ∧ e.links = extract options t ∧
        e.source = d.resolvedPath? := by
  rw [handedOver?, Option.map_eq_some_iff]
  constructor
  · rintro ⟨slug, hslug, rfl⟩
    exact ⟨hslug, rfl, rfl⟩
  · rintro ⟨hslug, hlinks, hsource⟩
    exact ⟨e.slug, hslug, by rw [← hlinks, ← hsource]⟩

/-! ### Documents with a path -/

/-- Only a document without a path needs a name. -/
theorem key?_of_path (hpath : d.resolvedPath? ≠ none) :
    d.key? options names = (d.slug? options {}).map (·, names) := by
  obtain ⟨path, hpath⟩ := Option.ne_none_iff_exists'.1 hpath
  by_cases hleft : d.LeftOut options
  · simp [slug?, key?, hleft]
  · by_cases hkey : options.keyBySlug
    · cases hslug : d.frontmatter.documentSlug? <;> simp [slug?, key?, hleft, hkey, hslug]
    · simp [slug?, key?, hleft, hkey, pathSlug, hpath]

theorem slug?_of_path (hpath : d.resolvedPath? ≠ none) :
    d.slug? options names = d.slug? options {} := by
  rw [slug?, key?_of_path hpath]
  cases d.slug? options {} <;> rfl

theorem handedOver?_of_path (hpath : d.resolvedPath? ≠ none) :
    d.handedOver? options names t = d.handedOver? options {} t := by
  rw [handedOver?, slug?_of_path hpath, handedOver?]

/-! ### Processing -/

/-- What is told of a document that is left out. -/
def omission (options : Options) (d : Document) : Notice :=
  if d.IsIgnoredDraft options then .draftSkipped d.resolvedPath?
  else .slugMissing d.resolvedPath?

theorem process_of_leftOut (hleft : d.LeftOut options) :
    d.process options store names t = ⟨none, store, names, [d.omission options]⟩ := by
  rw [process, omission]
  by_cases hdraft : options.ignoreDrafts ∧ d.frontmatter.isDraft
  · rw [if_pos hdraft, if_pos (show d.IsIgnoredDraft options from hdraft)]
  · obtain ⟨hkey, hslug⟩ : d.LacksSlug options := hleft.resolve_left hdraft
    rw [if_neg hdraft, if_neg (show ¬d.IsIgnoredDraft options from hdraft), if_pos hkey, hslug]

theorem process_of_key? {slug : String} {rest : Slug.Names}
    (hkey : d.key? options names = some (slug, rest)) :
    d.process options store names t = d.recordAs options store rest t slug := by
  -- With drafts out of the way, the key and the processing branch on the same test.
  have hleft := not_leftOut_of_key? hkey
  have hdraft : ¬(options.ignoreDrafts ∧ d.frontmatter.isDraft) := fun h => hleft (.inl h)
  rw [key?, if_neg hleft] at hkey
  rw [process, if_neg hdraft]
  by_cases hmode : options.keyBySlug
  · rw [if_pos hmode] at hkey ⊢
    obtain ⟨slug', hslug, hpair⟩ := Option.map_eq_some_iff.1 hkey
    obtain ⟨rfl, rfl⟩ := Prod.mk.inj hpair
    rw [hslug]
  · rw [if_neg hmode] at hkey ⊢
    rw [Option.some.inj hkey]

theorem key?_cases (options : Options) (names : Slug.Names) (d : Document) :
    d.LeftOut options ∨ ∃ slug rest, d.key? options names = some (slug, rest) := by
  cases hkey : d.key? options names with
  | none => exact .inl (key?_eq_none_iff.1 hkey)
  | some key => exact .inr ⟨key.1, key.2, rfl⟩

theorem handedOver?_of_key? {slug : String} {rest : Slug.Names}
    (hkey : d.key? options names = some (slug, rest)) :
    d.handedOver? options names t = some ⟨slug, extract options t, d.resolvedPath?⟩ := by
  rw [handedOver?, slug?, hkey]
  rfl

variable (options store names d t)

theorem process_store :
    (d.process options store names t).store =
      store.recordAll (d.handedOver? options names t).toList := by
  obtain hleft | ⟨slug, rest, hkey⟩ := key?_cases options names d
  · rw [process_of_leftOut hleft, handedOver?_eq_none_iff.2 hleft]
    rfl
  · rw [process_of_key? hkey, handedOver?_of_key? hkey]
    rfl

theorem process_links :
    (d.process options store names t).links =
      if d.LeftOut options then none else some (extract options t) := by
  obtain hleft | ⟨slug, rest, hkey⟩ := key?_cases options names d
  · rw [process_of_leftOut hleft, if_pos hleft]
  · rw [process_of_key? hkey, if_neg (not_leftOut_of_key? hkey)]
    rfl

theorem process_names_of_path (hpath : d.resolvedPath? ≠ none) :
    (d.process options store names t).names = names := by
  obtain hleft | ⟨slug, rest, hkey⟩ := key?_cases options names d
  · rw [process_of_leftOut hleft]
  · have hrest : rest = names := by
      rw [key?_of_path hpath, Option.map_eq_some_iff] at hkey
      obtain ⟨_, -, hpair⟩ := hkey
      exact (Prod.mk.inj hpair).2.symm
    rw [process_of_key? hkey, hrest]
    rfl

/-- Overwritings are told just where the recording is one. -/
theorem process_overwrites :
    (d.process options store names t).notices.filterMap Notice.overwrite? =
      store.overwrites (d.handedOver? options names t).toList := by
  obtain hleft | ⟨slug, rest, hkey⟩ := key?_cases options names d
  · rw [process_of_leftOut hleft, handedOver?_eq_none_iff.2 hleft, omission]
    split <;> rfl
  · rw [process_of_key? hkey, handedOver?_of_key? hkey, Option.toList_some,
      Store.overwrites_singleton, recordAs]
    cases store.overwriteOf? slug d.resolvedPath? <;> rfl

/-- A missing slug is told just where it is the reason for leaving a document out. -/
theorem process_slugMissing :
    (d.process options store names t).notices.filter Notice.isSlugMissing =
      if ¬d.IsIgnoredDraft options ∧ d.LacksSlug options then [.slugMissing d.resolvedPath?]
      else [] := by
  obtain hleft | ⟨slug, rest, hkey⟩ := key?_cases options names d
  · rw [process_of_leftOut hleft, omission]
    by_cases hdraft : d.IsIgnoredDraft options
    · simp [hdraft, Notice.isSlugMissing]
    · simp [hdraft, hleft.resolve_left hdraft, Notice.isSlugMissing]
  · have hslug : ¬d.LacksSlug options := fun h => not_leftOut_of_key? hkey (.inr h)
    rw [process_of_key? hkey, recordAs, if_neg (fun h => hslug h.2)]
    cases store.overwriteOf? slug d.resolvedPath? <;> rfl

end Document

end LinkIndex

import LinkIndex.Proofs.Store.History
import Mathlib.Data.List.Nodup

/-!
What recordings do to a store that may hold something already. Under every key
that is recorded the store then holds what came last; under every other key it
holds what it held. Two stores are compared by what they hold under each key,
for the order of the keys depends on what was there before.

The last part counts. Where every source hands over one entry only, each entry
either brings a new key or is announced as an overwriting.
-/

namespace LinkIndex

structure Held where
  headings : Option (List String)
  internal : Option (List String)
  external : Option (List String)
  deriving DecidableEq, Repr

/-- What links leave under a key when they are recorded. -/
def Links.held (links : Links) : Held where
  headings := some links.headings
  internal := some links.internal
  external := if links.external = [] then none else some links.external

namespace LinkData

def lookUp (d : LinkData) (slug : String) : Held where
  headings := d.headings.get? slug
  internal := d.internal.get? slug
  external := d.external.get? slug

/-- Data that hold the same under every key, whatever the order of the keys. -/
def Same (d d' : LinkData) : Prop :=
  ∀ slug, d.lookUp slug = d'.lookUp slug

end LinkData

namespace Store

variable (s : Store) (e : Entry) (h : List Entry) (slug : String)

theorem lookUp_record :
    (s.record e.slug e.links e.source).data.lookUp slug =
      if e.slug = slug then e.links.held else s.data.lookUp slug := by
  by_cases hslug : e.slug = slug
  · subst hslug
    by_cases hext : e.links.external = [] <;>
      simp [LinkData.lookUp, Links.held, record, hext]
  · by_cases hext : e.links.external = [] <;>
      simp [LinkData.lookUp, record, hslug, hext, Assoc.get?_put_of_ne, Assoc.get?_erase_of_ne]

theorem get?_sources_record :
    (s.record e.slug e.links e.source).sources.get? slug =
      if e.slug = slug then some e.source else s.sources.get? slug := by
  by_cases hslug : e.slug = slug
  · subst hslug
    simp [record]
  · simp [record, hslug, Assoc.get?_put_of_ne]

/-! ### The last entry under a key -/

namespace History

/-- The entry that came last under a key. -/
def last? (h : List Entry) (slug : String) : Option Entry :=
  (h.filter (·.slug = slug)).getLast?

theorem last?_concat :
    last? (h ++ [e]) slug = if e.slug = slug then some e else last? h slug := by
  by_cases hslug : e.slug = slug <;> simp [last?, List.filter_append, hslug]

variable {e h slug}

theorem mem_of_last? (hlast : last? h slug = some e) : e ∈ h ∧ e.slug = slug := by
  have hmem := List.mem_of_getLast? hlast
  simpa using hmem

theorem last?_eq_none_iff : last? h slug = none ↔ slug ∉ slugs h := by
  rw [last?, List.getLast?_eq_none_iff, List.filter_eq_nil_iff, mem_slugs]
  simp

/-- Where no key comes twice, the entry of a key is the last one under it. -/
theorem last?_eq_some_iff_of_nodup (hnd : (h.map (·.slug)).Nodup) :
    last? h slug = some e ↔ e ∈ h ∧ e.slug = slug := by
  refine ⟨mem_of_last?, ?_⟩
  rintro ⟨he, hslug⟩
  cases hlast : last? h slug with
  | none =>
      have hnew := last?_eq_none_iff.1 hlast
      exact absurd ((mem_slugs h slug).2 ⟨e, he, hslug⟩) hnew
  | some e' =>
      obtain ⟨he', hslug'⟩ := mem_of_last? hlast
      rw [List.inj_on_of_nodup_map hnd he' he (hslug'.trans hslug.symm)]

/-- The order of entries with different keys does not matter to the last ones. -/
theorem last?_perm {h' : List Entry} (hperm : h.Perm h') (hnd : (h.map (·.slug)).Nodup) :
    last? h slug = last? h' slug := by
  have hnd' : (h'.map (·.slug)).Nodup := (hperm.map _).nodup_iff.1 hnd
  refine Option.ext fun e => ?_
  rw [last?_eq_some_iff_of_nodup hnd, last?_eq_some_iff_of_nodup hnd', hperm.mem_iff]

end History

/-! ### Several recordings -/

/-- A store after entries are recorded, one after the other. -/
def recordAll (h : List Entry) : Store :=
  h.foldl (fun s e => s.record e.slug e.links e.source) s

@[simp] theorem recordAll_nil : s.recordAll [] = s := rfl

theorem recordAll_append (h' : List Entry) :
    s.recordAll (h ++ h') = (s.recordAll h).recordAll h' :=
  List.foldl_append

theorem recordAll_singleton : s.recordAll [e] = s.record e.slug e.links e.source := rfl

/-- Recorded keys hold what came last under them, and all others what they held. -/
theorem lookUp_recordAll :
    (s.recordAll h).data.lookUp slug =
      ((History.last? h slug).map (·.links.held)).getD (s.data.lookUp slug) := by
  induction h using List.reverseRecOn with
  | nil => rfl
  | append_singleton h e ih =>
      rw [recordAll_append, recordAll_singleton, lookUp_record, ih, History.last?_concat]
      split <;> rfl

/-- What was held does not matter under a key that is recorded. -/
theorem lookUp_recordAll_of_mem (s' : Store) (hslug : slug ∈ History.slugs h) :
    (s.recordAll h).data.lookUp slug = (s'.recordAll h).data.lookUp slug := by
  have hsome : History.last? h slug ≠ none := mt History.last?_eq_none_iff.1 (not_not.2 hslug)
  obtain ⟨e, hlast⟩ := Option.ne_none_iff_exists'.1 hsome
  rw [lookUp_recordAll, lookUp_recordAll, hlast]
  rfl

theorem lookUp_recordAll_of_not_mem (hslug : slug ∉ History.slugs h) :
    (s.recordAll h).data.lookUp slug = s.data.lookUp slug := by
  rw [lookUp_recordAll, History.last?_eq_none_iff.2 hslug]
  rfl

/-- To record the same entries once more changes nothing under any key. -/
theorem same_recordAll_again :
    ((s.recordAll h).recordAll h).data.Same (s.recordAll h).data := by
  intro slug
  by_cases hslug : slug ∈ History.slugs h
  · exact lookUp_recordAll_of_mem _ h slug s hslug
  · exact lookUp_recordAll_of_not_mem _ h slug hslug

theorem get?_sources_recordAll :
    (s.recordAll h).sources.get? slug =
      ((History.last? h slug).map (·.source)).or (s.sources.get? slug) := by
  induction h using List.reverseRecOn with
  | nil => rfl
  | append_singleton h e ih =>
      rw [recordAll_append, recordAll_singleton, get?_sources_record, ih, History.last?_concat]
      split <;> rfl

theorem agrees_recordAll : Agrees h (recordAll {} h).data := by
  induction h using List.reverseRecOn with
  | nil => exact agrees_nil
  | append_singleton h e ih =>
      rw [recordAll_append, recordAll_singleton]
      exact ih.record e

theorem keys_headings_recordAll : (recordAll {} h).data.headings.keys = History.slugs h :=
  (agrees_recordAll h).headings.1

/-! ### Overwritings -/

/-- The overwritings that entries are when they are recorded, one after the other. -/
def overwrites (s : Store) : List Entry → List Overwrite
  | [] => []
  | e :: rest =>
    (s.overwriteOf? e.slug e.source).toList ++
      overwrites (s.record e.slug e.links e.source) rest

theorem overwrites_append (h' : List Entry) :
    s.overwrites (h ++ h') = s.overwrites h ++ (s.recordAll h).overwrites h' := by
  induction h generalizing s with
  | nil => rfl
  | cons e rest ih => rw [List.cons_append, overwrites, overwrites, ih, List.append_assoc]; rfl

theorem overwrites_singleton : s.overwrites [e] = (s.overwriteOf? e.slug e.source).toList :=
  List.append_nil _

theorem overwriteOf?_eq_some_iff (source : Option String) (o : Overwrite) :
    s.overwriteOf? slug source = some o ↔
      ∃ old, s.sources.get? slug = some old ∧ old ≠ source ∧ o = ⟨slug, source, old⟩ := by
  rw [overwriteOf?]
  cases s.sources.get? slug with
  | none => simp
  | some old =>
      dsimp only
      by_cases hsame : old = source
      · simp [hsame]
      · rw [if_neg hsame]
        constructor
        · intro ho
          exact ⟨old, rfl, hsame, (Option.some.inj ho).symm⟩
        · rintro ⟨_, ⟨⟩, -, rfl⟩
          rfl

theorem overwriteOf?_eq_none_of_new (source : Option String) (hnew : History.last? h slug = none) :
    (recordAll {} h).overwriteOf? slug source = none := by
  rw [overwriteOf?, get?_sources_recordAll, hnew]
  rfl

theorem overwriteOf?_of_last? {source : Option String} {e : Entry}
    (hlast : History.last? h slug = some e) (hne : e.source ≠ source) :
    (s.recordAll h).overwriteOf? slug source = some ⟨slug, source, e.source⟩ := by
  rw [overwriteOf?_eq_some_iff]
  exact ⟨e.source, by rw [get?_sources_recordAll, hlast]; rfl, hne, rfl⟩

/-- Entries with different keys overwrite nothing in a new store. -/
theorem overwrites_eq_nil_of_nodup (hnd : (h.map (·.slug)).Nodup) : overwrites {} h = [] := by
  induction h using List.reverseRecOn with
  | nil => rfl
  | append_singleton h e ih =>
      rw [List.map_append, List.nodup_append] at hnd
      have hnew : History.last? h e.slug = none := by
        rw [History.last?_eq_none_iff, History.mem_slugs]
        rintro ⟨e', he', hslug⟩
        exact hnd.2.2 e'.slug (List.mem_map_of_mem he') e.slug (by simp) hslug
      rw [overwrites_append, ih hnd.1, overwrites_singleton,
        overwriteOf?_eq_none_of_new h _ _ hnew]
      rfl

/-- Where no two entries come from one source, each of them either brings a new
key to a new store or is an overwriting. -/
theorem length_eq_slugs_add_overwrites (hnd : (h.map (·.source)).Nodup) :
    h.length = (History.slugs h).length + (overwrites {} h).length := by
  induction h using List.reverseRecOn with
  | nil => rfl
  | append_singleton h e ih =>
      rw [List.map_append, List.nodup_append] at hnd
      have hcount := ih hnd.1
      rw [overwrites_append, overwrites_singleton, History.slugs_concat, List.length_append,
        List.length_append, List.length_singleton]
      cases hlast : History.last? h e.slug with
      | none =>
          have hnew := History.last?_eq_none_iff.1 hlast
          rw [overwriteOf?_eq_none_of_new h _ _ hlast, if_neg hnew, List.length_append,
            List.length_singleton]
          simp only [Option.toList_none, List.length_nil]
          omega
      | some e' =>
          -- The key is there, and from another source, for this source is a new one.
          have hold : e.slug ∈ History.slugs h := by
            by_contra hnew
            rw [History.last?_eq_none_iff.2 hnew] at hlast
            contradiction
          have hsource : e'.source ≠ e.source :=
            hnd.2.2 e'.source (List.mem_map_of_mem (History.mem_of_last? hlast).1) e.source
              (by simp)
          rw [overwriteOf?_of_last? _ h _ hlast hsource, if_pos hold]
          simp only [Option.toList_some, List.length_singleton]
          omega

end Store

end LinkIndex

import LinkIndex.Store
import LinkIndex.Proofs.Assoc
import LinkIndex.Proofs.Order

/-!
A store is what its history says. Only the calls behind the last reset count,
and of these the store keeps: the keys in the order in which they first came,
each with what came last, and among the external links the keys whose last
entry had any, in the order in which their present runs of such entries began.

The three lists of a store are followed through a call by their keys and their
look-ups, never as lists: what one call does to either is one equation.
-/

namespace LinkIndex

namespace Store

structure Entry where
  slug : String
  links : Links
  source : Option String
  deriving DecidableEq, Repr

inductive Call
  | record (entry : Entry)
  | reset
  deriving DecidableEq, Repr

def apply (s : Store) : Call → Store
  | .record e => s.record e.slug e.links e.source
  | .reset => s.reset

def run (calls : List Call) : Store :=
  calls.foldl apply {}

def Call.recorded? : Call → Option Entry
  | .record e => some e
  | .reset => none

/-- The entries of the calls behind the last reset. -/
def sinceReset (calls : List Call) : List Entry :=
  (calls.rtakeWhile (·.recorded?.isSome)).filterMap Call.recorded?

theorem run_concat (calls : List Call) (c : Call) : run (calls ++ [c]) = (run calls).apply c := by
  simp [run]

theorem sinceReset_concat_record (calls : List Call) (e : Entry) :
    sinceReset (calls ++ [.record e]) = sinceReset calls ++ [e] := by
  rw [sinceReset, List.rtakeWhile_concat_pos _ _ _ rfl, List.filterMap_append]
  rfl

theorem sinceReset_concat_reset (calls : List Call) : sinceReset (calls ++ [.reset]) = [] := by
  rw [sinceReset, List.rtakeWhile_concat_neg _ _ _ (by simp [Call.recorded?])]
  rfl

/-! ### What a history says -/

namespace History

/-- The keys of a history, in the order in which they first came. -/
def slugs (h : List Entry) : List String :=
  (h.map (·.slug)).eraseDups

/-- The links that came last under a key. -/
def lastOf (h : List Entry) (slug : String) : Links :=
  ((h.filter (·.slug = slug)).getLast?.map (·.links)).getD {}

/-- The present run of a key: the last entries of the key, as far back as all of
them have external links, each with its place in the history. -/
def currentRun (h : List Entry) (slug : String) : List (Entry × Nat) :=
  (h.zipIdx.filter (·.1.slug = slug)).rtakeWhile (·.1.links.external ≠ [])

/-- The place in the history at which the present run of a key began. -/
def runStart (h : List Entry) (slug : String) : Nat :=
  ((currentRun h slug).head?.map (·.2)).getD 0

/-- The keys whose last entry had external links, in the order in which their
present runs began. -/
def externalSlugs (h : List Entry) : List String :=
  ((slugs h).filter fun k => (lastOf h k).external ≠ []).mergeSort
    fun a b => runStart h a ≤ runStart h b

def data (h : List Entry) : LinkData where
  headings := (slugs h).map fun k => (k, (lastOf h k).headings)
  internal := (slugs h).map fun k => (k, (lastOf h k).internal)
  external := (externalSlugs h).map fun k => (k, (lastOf h k).external)

/-! ### One more entry -/

variable (h : List Entry) (e : Entry)

theorem mem_slugs (slug : String) : slug ∈ slugs h ↔ ∃ e ∈ h, e.slug = slug := by
  simp [slugs, List.mem_eraseDups]

theorem slugs_concat :
    slugs (h ++ [e]) = if e.slug ∈ slugs h then slugs h else slugs h ++ [e.slug] := by
  rw [slugs, List.map_append, List.map_singleton, eraseDups_concat]
  simp only [slugs, List.mem_eraseDups]

theorem nodup_slugs : (slugs h).Nodup :=
  nodup_eraseDups _

theorem lastOf_concat (slug : String) :
    lastOf (h ++ [e]) slug = if e.slug = slug then e.links else lastOf h slug := by
  by_cases hslug : e.slug = slug <;> simp [lastOf, List.filter_append, hslug]

theorem currentRun_concat (slug : String) :
    currentRun (h ++ [e]) slug =
      if e.slug = slug then
        if e.links.external = [] then [] else currentRun h slug ++ [(e, h.length)]
      else currentRun h slug := by
  have hzip : (h ++ [e]).zipIdx = h.zipIdx ++ [(e, h.length)] := by
    simp [List.zipIdx_append]
  rw [currentRun, hzip, List.filter_append]
  by_cases hslug : e.slug = slug
  · by_cases hext : e.links.external = []
    · simp [hslug, hext]
    · simp [hslug, hext, currentRun]
  · simp [hslug, currentRun]

/-- A run is there just where the last entry has external links. -/
theorem currentRun_eq_nil_iff (slug : String) :
    currentRun h slug = [] ↔ (lastOf h slug).external = [] := by
  induction h using List.reverseRecOn with
  | nil => exact ⟨fun _ => rfl, fun _ => rfl⟩
  | append_singleton h e ih =>
      rw [currentRun_concat, lastOf_concat]
      by_cases hslug : e.slug = slug
      · by_cases hext : e.links.external = [] <;> simp [hslug, hext]
      · simpa [hslug] using ih

theorem lt_length_of_mem_currentRun {slug : String} {x : Entry × Nat}
    (hx : x ∈ currentRun h slug) : x.2 < h.length := by
  have hzip : x ∈ h.zipIdx :=
    List.mem_of_mem_filter ((List.rtakeWhile_suffix _ _).subset hx)
  have hbounds := List.mem_zipIdx hzip
  omega

theorem runStart_lt {slug : String} (hext : (lastOf h slug).external ≠ []) :
    runStart h slug < h.length := by
  have hrun : currentRun h slug ≠ [] := fun hnil => hext ((currentRun_eq_nil_iff h slug).1 hnil)
  obtain ⟨x, rest, hcons⟩ := List.exists_cons_of_ne_nil hrun
  have hmem : x ∈ currentRun h slug := by simp [hcons]
  have hx := lt_length_of_mem_currentRun h hmem
  simpa [runStart, hcons] using hx

/-- A key without an entry has no links. -/
theorem mem_slugs_of_external {slug : String} (hext : (lastOf h slug).external ≠ []) :
    slug ∈ slugs h := by
  rw [mem_slugs]
  by_contra hnone
  have hnil : h.filter (·.slug = slug) = [] :=
    List.filter_eq_nil_iff.2 fun e he => by simpa using fun heq => hnone ⟨e, he, heq⟩
  exact hext (by simp [lastOf, hnil])

theorem runStart_concat_of_ne {slug : String} (hne : e.slug ≠ slug) :
    runStart (h ++ [e]) slug = runStart h slug := by
  rw [runStart, currentRun_concat, if_neg hne, runStart]

/-- An entry with external links goes on with the run of its key; it begins a run
where there is none. -/
theorem runStart_concat_self (hext : e.links.external ≠ []) :
    runStart (h ++ [e]) e.slug =
      if (lastOf h e.slug).external = [] then h.length else runStart h e.slug := by
  rw [runStart, currentRun_concat, if_pos rfl, if_neg hext]
  by_cases hlast : (lastOf h e.slug).external = []
  · rw [if_pos hlast, (currentRun_eq_nil_iff h e.slug).2 hlast]
    rfl
  · have hrun : currentRun h e.slug ≠ [] := fun hnil =>
      hlast ((currentRun_eq_nil_iff h e.slug).1 hnil)
    obtain ⟨x, rest, hcons⟩ := List.exists_cons_of_ne_nil hrun
    simp [hlast, runStart, hcons]

/-! ### The lists of a store -/

/-- A list holds under every key of a history what `part` takes of the links
that came last, and its keys are in order of their first entries. -/
def Follows (part : Links → List String) (m : Assoc String (List String)) : Prop :=
  m.keys = slugs h ∧ ∀ k ∈ slugs h, m.get? k = some (part (lastOf h k))

/-- A list holds the external links that came last, where there were any, and
its keys are in the order in which their runs began. -/
def FollowsRuns (m : Assoc String (List String)) : Prop :=
  m.keys.Pairwise (fun a b => runStart h a < runStart h b) ∧
    ∀ k, m.get? k =
      if (lastOf h k).external = [] then none else some (lastOf h k).external

variable {h} {part : Links → List String} {m : Assoc String (List String)}

theorem Follows.put (hm : Follows h part m) :
    Follows (h ++ [e]) part (m.put e.slug (part e.links)) := by
  obtain ⟨hkeys, hget⟩ := hm
  constructor
  · rw [Assoc.keys_put, hkeys, slugs_concat]
  · intro k hk
    rw [lastOf_concat]
    by_cases hslug : e.slug = k
    · rw [if_pos hslug, hslug, Assoc.get?_put_self]
    · have hold : k ∈ slugs h := by
        rw [slugs_concat] at hk
        split at hk
        · exact hk
        · simpa [Ne.symm hslug] using hk
      rw [if_neg hslug, Assoc.get?_put_of_ne _ _ hslug, hget k hold]

theorem Follows.eq_map (hm : Follows h part m) :
    m = (slugs h).map fun k => (k, part (lastOf h k)) := by
  obtain ⟨hkeys, hget⟩ := hm
  have hmap := Assoc.eq_map_of_get? m (fun k => part (lastOf h k))
    (hkeys ▸ nodup_slugs h) (hkeys ▸ hget)
  rwa [hkeys] at hmap

theorem FollowsRuns.mem_keys_iff (hm : FollowsRuns h m) (k : String) :
    k ∈ m.keys ↔ (lastOf h k).external ≠ [] := by
  rw [← not_iff_not, ← Assoc.get?_eq_none_iff, hm.2]
  split <;> simp [*]

/-- An entry without external links ends the run of its key. -/
theorem FollowsRuns.erase (hm : FollowsRuns h m) (hext : e.links.external = []) :
    FollowsRuns (h ++ [e]) (m.erase e.slug) := by
  obtain ⟨horder, hget⟩ := hm
  constructor
  · rw [Assoc.keys_erase]
    refine (horder.filter _).imp_of_mem ?_
    intro a b ha hb hab
    have hne : ∀ k ∈ m.keys.filter (· ≠ e.slug), e.slug ≠ k := by
      intro k hk heq
      simpa [heq] using (List.mem_filter.1 hk).2
    rwa [runStart_concat_of_ne h e (hne a ha), runStart_concat_of_ne h e (hne b hb)]
  · intro k
    rw [lastOf_concat]
    by_cases hslug : e.slug = k
    · rw [if_pos hslug, hslug, Assoc.get?_erase_self, if_pos hext]
    · rw [if_neg hslug, Assoc.get?_erase_of_ne _ hslug, hget]

/-- An entry with external links leaves its key in place while its run lasts, and
puts it behind all others when it begins a new one. -/
theorem FollowsRuns.put (hm : FollowsRuns h m) (hext : e.links.external ≠ []) :
    FollowsRuns (h ++ [e]) (m.put e.slug e.links.external) := by
  have hmem := hm.mem_keys_iff
  obtain ⟨horder, hget⟩ := hm
  have hself := runStart_concat_self h e hext
  constructor
  · rw [Assoc.keys_put]
    by_cases hlast : (lastOf h e.slug).external = []
    · -- A new run begins behind every place of the history.
      have hnew : e.slug ∉ m.keys := fun hk => (hmem e.slug).1 hk hlast
      have hold : ∀ k ∈ m.keys, runStart (h ++ [e]) k = runStart h k := fun k hk =>
        runStart_concat_of_ne h e fun heq => hnew (heq ▸ hk)
      rw [if_pos hlast] at hself
      rw [if_neg hnew, List.pairwise_append]
      refine ⟨?_, List.pairwise_singleton _ _, ?_⟩
      · refine horder.imp_of_mem ?_
        intro a b ha hb hab
        rwa [hold a ha, hold b hb]
      · intro k hk k' hk'
        rw [List.mem_singleton.1 hk', hold k hk, hself]
        exact runStart_lt h ((hmem k).1 hk)
    · -- The run of the key goes on, and no run has another beginning than before.
      have hold : ∀ k, runStart (h ++ [e]) k = runStart h k := by
        intro k
        by_cases hslug : e.slug = k
        · rw [← hslug, hself, if_neg hlast]
        · exact runStart_concat_of_ne h e hslug
      rw [if_pos ((hmem e.slug).2 hlast)]
      simpa only [hold] using horder
  · intro k
    rw [lastOf_concat]
    by_cases hslug : e.slug = k
    · rw [if_pos hslug, hslug, Assoc.get?_put_self, if_neg hext]
    · rw [if_neg hslug, Assoc.get?_put_of_ne _ _ hslug, hget]

theorem FollowsRuns.nodup_keys (hm : FollowsRuns h m) : m.keys.Nodup := by
  refine hm.1.imp ?_
  intro a b hab heq
  rw [heq] at hab
  exact Nat.lt_irrefl _ hab

theorem FollowsRuns.keys_perm (hm : FollowsRuns h m) :
    m.keys.Perm ((slugs h).filter fun k => (lastOf h k).external ≠ []) := by
  rw [List.perm_ext_iff_of_nodup hm.nodup_keys ((nodup_slugs h).filter _)]
  intro k
  simpa [hm.mem_keys_iff] using mem_slugs_of_external h

theorem FollowsRuns.keys_eq (hm : FollowsRuns h m) : m.keys = externalSlugs h :=
  eq_mergeSort_of_pairwise_lt hm.1 hm.keys_perm

theorem FollowsRuns.eq_map (hm : FollowsRuns h m) :
    m = (externalSlugs h).map fun k => (k, (lastOf h k).external) := by
  have hget : ∀ k ∈ m.keys, m.get? k = some (lastOf h k).external := by
    intro k hk
    rw [hm.2, if_neg ((hm.mem_keys_iff k).1 hk)]
  have hmap := Assoc.eq_map_of_get? m _ hm.nodup_keys hget
  rwa [hm.keys_eq] at hmap

end History

/-! ### The run of a store -/

structure Agrees (h : List Entry) (d : LinkData) : Prop where
  headings : History.Follows h Links.headings d.headings
  internal : History.Follows h Links.internal d.internal
  external : History.FollowsRuns h d.external

theorem agrees_nil : Agrees [] {} where
  headings := ⟨rfl, by simp [History.slugs]⟩
  internal := ⟨rfl, by simp [History.slugs]⟩
  external := ⟨List.Pairwise.nil, fun _ => rfl⟩

theorem Agrees.record {h : List Entry} {s : Store} (hs : Agrees h s.data) (e : Entry) :
    Agrees (h ++ [e]) (s.record e.slug e.links e.source).data where
  headings := hs.headings.put e
  internal := hs.internal.put e
  external := by
    by_cases hext : e.links.external = []
    · simpa [Store.record, hext] using hs.external.erase e hext
    · simpa [Store.record, hext] using hs.external.put e hext

theorem agrees_run (calls : List Call) : Agrees (sinceReset calls) (run calls).data := by
  induction calls using List.reverseRecOn with
  | nil => exact agrees_nil
  | append_singleton calls c ih =>
      rw [run_concat]
      cases c with
      | reset =>
          rw [sinceReset_concat_reset]
          exact agrees_nil
      | record e =>
          rw [sinceReset_concat_record]
          exact ih.record e

theorem Agrees.data_eq {h : List Entry} {d : LinkData} (hd : Agrees h d) : d = History.data h := by
  obtain ⟨headings, internal, external⟩ := d
  rw [History.data, ← hd.headings.eq_map, ← hd.internal.eq_map, ← hd.external.eq_map]

/-- After any calls a store holds what the entries behind the last reset say. In
particular headings and internal links have the same keys in the same order,
the keys of the external links are among them, and no list of external links is
empty. -/
theorem run_eq_history (calls : List Call) :
    let h := sinceReset calls
    let s := run calls
    s.data = History.data h ∧
      s.size = (History.slugs h).length ∧
      (∀ slug, s.has slug = true ↔ ∃ e ∈ h, e.slug = slug) ∧
      s.data.headings.keys = s.data.internal.keys ∧
      s.data.external.keys ⊆ s.data.headings.keys ∧
      ∀ p ∈ s.data.external, p.2 ≠ [] := by
  intro h s
  have hs : Agrees h s.data := agrees_run calls
  have hkeys := hs.headings.1
  refine ⟨hs.data_eq, ?_, ?_, ?_, ?_, ?_⟩
  · rw [← hkeys, Assoc.keys, List.length_map, size]
  · intro slug
    rw [has, Assoc.has_iff, hkeys, History.mem_slugs]
  · rw [hkeys, hs.internal.1]
  · rw [hkeys, hs.external.keys_eq]
    intro k hk
    rw [History.externalSlugs, List.mem_mergeSort] at hk
    exact List.mem_of_mem_filter hk
  · intro p hp
    rw [hs.external.eq_map] at hp
    obtain ⟨k, hk, rfl⟩ := List.mem_map.1 hp
    rw [History.externalSlugs, List.mem_mergeSort] at hk
    simpa using (List.mem_filter.1 hk).2

end Store

end LinkIndex

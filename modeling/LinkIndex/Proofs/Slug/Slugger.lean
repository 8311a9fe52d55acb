import LinkIndex.Proofs.Assoc
import LinkIndex.Slug.Heading
import Mathlib.Data.List.DropRight
import Mathlib.Data.List.Nodup
import Mathlib.Data.List.Perm.Subperm
import Mathlib.Data.List.ReduceOption
import Mathlib.Tactic.Tauto

/-!
What a slugger hands out. Beside each text that was ever a slug it keeps a number, and it
searches on from there; what it hands out is nevertheless the first candidate of all that
was not handed out before. The invariant is that the candidates up to the number of a text
are all taken, whichever texts they were handed out for.
-/

namespace LinkIndex

namespace Slugger

/-! ### Candidates -/

@[simp] theorem candidate_zero (base : String) : candidate base 0 = base := rfl

theorem candidate_succ (base : String) (k : Nat) :
    candidate base (k + 1) = base ++ ("-" ++ String.ofList (Text.decimal (k + 1))) := by
  rw [candidate, if_neg (Nat.succ_ne_zero k), String.append_assoc]

theorem candidate_succ_ne (base : String) (k : Nat) : candidate base (k + 1) ≠ base := by
  intro h
  have hlength := congrArg String.length h
  simp [candidate_succ] at hlength

/-- No two candidates of a text are the same. -/
theorem candidate_injective (base : String) : Function.Injective (candidate base) := by
  intro j k h
  cases j with
  | zero =>
      cases k with
      | zero => rfl
      | succ k => exact absurd h.symm (candidate_succ_ne base k)
  | succ j =>
      cases k with
      | zero => exact absurd h (candidate_succ_ne base j)
      | succ k =>
          rw [candidate_succ, candidate_succ, String.append_right_inj, String.append_right_inj,
            String.ofList_inj] at h
          exact Text.decimal_injective h

/-- A list has room for no more candidates of one text than it has members. -/
theorem le_length_of_candidates {taken : List String} {base : String} {m : Nat}
    (h : ∀ j < m, candidate base j ∈ taken) : m ≤ taken.length := by
  have hnodup : ((List.range m).map (candidate base)).Nodup :=
    List.nodup_range.map (candidate_injective base)
  have hsubset : (List.range m).map (candidate base) ⊆ taken := by
    intro slug hslug
    obtain ⟨j, hj, rfl⟩ := List.mem_map.1 hslug
    exact h j (List.mem_range.1 hj)
  simpa using (hnodup.subperm hsubset).length_le

def IsFirstFree (taken : List String) (base slug : String) : Prop :=
  ∃ k, slug = candidate base k ∧ candidate base k ∉ taken ∧ ∀ j < k, candidate base j ∈ taken

theorem IsFirstFree.not_mem {taken : List String} {base slug : String}
    (h : IsFirstFree taken base slug) : slug ∉ taken := by
  obtain ⟨k, rfl, hfree, -⟩ := h
  exact hfree

/-- The order and the repetitions of what is taken do not matter. -/
theorem IsFirstFree.unique {taken taken' : List String} {base slug slug' : String}
    (h : IsFirstFree taken base slug) (h' : IsFirstFree taken' base slug')
    (hsame : ∀ s, s ∈ taken ↔ s ∈ taken') : slug = slug' := by
  obtain ⟨k, rfl, hfree, htaken⟩ := h
  obtain ⟨k', rfl, hfree', htaken'⟩ := h'
  rcases Nat.lt_trichotomy k k' with hlt | rfl | hlt
  · exact absurd ((hsame _).2 (htaken' k hlt)) hfree
  · rfl
  · exact absurd ((hsame _).1 (htaken k' hlt)) hfree'

/-! ### The search -/

section Search

variable {counts : Assoc String Nat} {base : String} {fuel start : Nat}

/-- What the search passes over is taken. -/
theorem mem_keys_of_lt_firstFree {j : Nat} (hstart : start ≤ j)
    (hj : j < firstFree counts base fuel start) : candidate base j ∈ counts.keys := by
  induction fuel generalizing start with
  | zero =>
      rw [firstFree] at hj
      omega
  | succ fuel ih =>
      rw [firstFree] at hj
      split at hj
      · rename_i hhas
        rcases Nat.eq_or_lt_of_le hstart with rfl | hlt
        · exact (Assoc.has_iff _ _).1 hhas
        · exact ih hlt hj
      · omega

/-- The search ends at a candidate that is taken only where its fuel is used up. -/
theorem firstFree_eq_of_mem_keys
    (h : candidate base (firstFree counts base fuel start) ∈ counts.keys) :
    firstFree counts base fuel start = start + fuel := by
  induction fuel generalizing start with
  | zero => rfl
  | succ fuel ih =>
      rw [firstFree] at h ⊢
      split at h
      · rename_i hhas
        rw [if_pos hhas, ih h]
        omega
      · rename_i hhas
        exact absurd ((Assoc.has_iff _ _).2 h) hhas

/-- Where all candidates in front of the search are taken, it finds the first free one. As
many steps as there are slugs are enough, since candidates are distinct. -/
theorem isFirstFree_firstFree (hstart : ∀ j < start, candidate base j ∈ counts.keys) :
    IsFirstFree counts.keys base
      (candidate base (firstFree counts base counts.length start)) := by
  have hpassed : ∀ j < firstFree counts base counts.length start,
      candidate base j ∈ counts.keys := by
    intro j hj
    rcases Nat.lt_or_ge j start with hlt | hge
    · exact hstart j hlt
    · exact mem_keys_of_lt_firstFree hge hj
  refine ⟨_, rfl, ?_, hpassed⟩
  -- A search that used up its fuel would have seen more candidates than there are slugs.
  intro htaken
  have hend := firstFree_eq_of_mem_keys htaken
  have hall : ∀ j < start + counts.length + 1, candidate base j ∈ counts.keys := by
    intro j hj
    rcases Nat.eq_or_lt_of_le (Nat.le_of_lt_succ hj) with rfl | hlt
    · rw [← hend]
      exact htaken
    · exact hpassed j (hend ▸ hlt)
  have hlength := le_length_of_candidates hall
  rw [Assoc.keys, List.length_map] at hlength
  omega

end Search

/-! ### One slug -/

/-- A slugger has handed out some slugs, in this order, and keeps with each of them a number
up to which its candidates are taken. -/
structure HasGiven (s : Slugger) (given : List String) : Prop where
  keys : s.counts.keys = given
  taken : ∀ base n, s.counts.get? base = some n → ∀ j ≤ n, candidate base j ∈ given

variable {s : Slugger} {given : List String} {base : String}

/-- A text that was never a slug is handed out as it is. -/
theorem HasGiven.put_new (h : s.HasGiven given) (hnew : s.counts.get? base = none) :
    HasGiven ⟨s.counts.put base 0⟩ (given ++ [base]) := by
  have hkeys : base ∉ s.counts.keys := (Assoc.get?_eq_none_iff _ _).1 hnew
  constructor
  · have hput : (s.counts.put base 0).keys = s.counts.keys ++ [base] := by
      rw [Assoc.keys_put, if_neg hkeys]
    simpa [h.keys] using hput
  · intro base' n hget j hj
    simp only [Assoc.get?_put] at hget
    split at hget
    · rename_i hbase
      obtain rfl : n = 0 := (Option.some.inj hget).symm
      obtain rfl : j = 0 := Nat.le_zero.1 hj
      simp [hbase]
    · exact List.mem_append_left _ (h.taken base' n hget j hj)

/-- A text that was a slug takes the number of the candidate in its place, and the candidate
comes to the slugs. -/
theorem HasGiven.put_again (h : s.HasGiven given) {n k : Nat}
    (hold : s.counts.get? base = some n) (hfree : candidate base k ∉ given)
    (hpassed : ∀ j < k, candidate base j ∈ given) :
    HasGiven ⟨(s.counts.put base k).put (candidate base k) 0⟩ (given ++ [candidate base k]) := by
  have hbase : base ∈ s.counts.keys := Assoc.mem_keys_of_get? hold
  have hkeys : (s.counts.put base k).keys = given := by
    rw [Assoc.keys_put, if_pos hbase, h.keys]
  constructor
  · simp only [Assoc.keys_put (s.counts.put base k), hkeys, if_neg hfree]
  · intro base' m hget j hj
    simp only [Assoc.get?_put] at hget
    split at hget
    · rename_i hcandidate
      obtain rfl : m = 0 := (Option.some.inj hget).symm
      obtain rfl : j = 0 := Nat.le_zero.1 hj
      simp [hcandidate]
    split at hget
    -- the text itself: all that the search passed over was taken before
    · rename_i heq
      subst heq
      obtain rfl : m = k := (Option.some.inj hget).symm
      rcases Nat.eq_or_lt_of_le hj with rfl | hlt
      · simp
      · exact List.mem_append_left _ (hpassed j hlt)
    · exact List.mem_append_left _ (h.taken base' m hget j hj)

/-- One step: the first free candidate is handed out, and the slugger has given one slug
more. -/
theorem HasGiven.slug (h : s.HasGiven given) (text : String) :
    IsFirstFree given (headingSlug text) (s.slug text).1 ∧
      (s.slug text).2.HasGiven (given ++ [(s.slug text).1]) := by
  rw [Slugger.slug]
  cases hget : s.counts.get? (headingSlug text) with
  | none =>
      have hfree : headingSlug text ∉ given := by
        rw [← h.keys]
        exact (Assoc.get?_eq_none_iff _ _).1 hget
      exact ⟨⟨0, rfl, hfree, fun j hj => absurd hj (Nat.not_lt_zero j)⟩, h.put_new hget⟩
  | some n =>
      have hstart : ∀ j < n + 1, candidate (headingSlug text) j ∈ s.counts.keys := by
        intro j hj
        rw [h.keys]
        exact h.taken _ n hget j (Nat.le_of_lt_succ hj)
      have hfirst := isFirstFree_firstFree hstart
      rw [h.keys] at hfirst
      refine ⟨hfirst, ?_⟩
      obtain ⟨k, hk, hfree, hpassed⟩ := hfirst
      obtain rfl := candidate_injective _ hk
      exact h.put_again hget hfree hpassed

/-! ### Calls -/

inductive Call
  | slug (text : String)
  | reset
  deriving DecidableEq, Repr

def apply (s : Slugger) : Call → Slugger
  | .slug text => (s.slug text).2
  | .reset => s.reset

def answer (s : Slugger) : Call → Option String
  | .slug text => some (s.slug text).1
  | .reset => none

def run (calls : List Call) : Slugger :=
  calls.foldl apply {}

/-- What calls return, one after the other. -/
def answers (s : Slugger) : List Call → List (Option String)
  | [] => []
  | c :: rest => s.answer c :: (s.apply c).answers rest

/-- The slugs that calls on a new slugger returned since the last reset. -/
def handedOut (calls : List Call) : List String :=
  ((answers {} calls).rtakeWhile Option.isSome).reduceOption

theorem run_concat (calls : List Call) (c : Call) : run (calls ++ [c]) = (run calls).apply c :=
  List.foldl_concat ..

theorem answers_concat (s : Slugger) (calls : List Call) (c : Call) :
    s.answers (calls ++ [c]) = s.answers calls ++ [(calls.foldl apply s).answer c] := by
  induction calls generalizing s with
  | nil => rfl
  | cons first rest ih => simp [answers, ih]

theorem handedOut_concat_slug (calls : List Call) (text : String) :
    handedOut (calls ++ [.slug text]) = handedOut calls ++ [((run calls).slug text).1] := by
  rw [handedOut, answers_concat, List.rtakeWhile_concat_pos _ _ _ rfl, List.reduceOption_append]
  rfl

theorem handedOut_concat_reset (calls : List Call) : handedOut (calls ++ [.reset]) = [] := by
  rw [handedOut, answers_concat, List.rtakeWhile_concat_neg _ _ _ (by simp [answer])]
  rfl

/-- After any calls, a slugger has given just the slugs since the last reset. -/
theorem hasGiven_run (calls : List Call) : (run calls).HasGiven (handedOut calls) := by
  induction calls using List.reverseRecOn with
  | nil => exact ⟨rfl, fun base n hget => by cases hget⟩
  | append_singleton calls c ih =>
      rw [run_concat]
      cases c with
      | slug text =>
          rw [handedOut_concat_slug]
          exact (ih.slug text).2
      | reset =>
          rw [handedOut_concat_reset]
          exact ⟨rfl, fun base n hget => by cases hget⟩

theorem nodup_handedOut (calls : List Call) : (handedOut calls).Nodup := by
  induction calls using List.reverseRecOn with
  | nil => exact List.nodup_nil
  | append_singleton calls c ih =>
      cases c with
      | slug text =>
          have hfree := ((hasGiven_run calls).slug text).1.not_mem
          rw [handedOut_concat_slug, ← List.concat_eq_append]
          exact ih.concat hfree
      | reset =>
          rw [handedOut_concat_reset]
          exact List.nodup_nil

/-- After any calls, a slugger returns the first candidate of a text that it did not return
since it was last reset. So it returns none twice between two resets, and what it
returns hangs on the set of slugs that it returned before, and on nothing else that it
keeps. -/
theorem slug_first_free (calls : List Call) (text : String) :
    IsFirstFree (handedOut calls) (headingSlug text) ((run calls).slug text).1 ∧
      (handedOut calls).Nodup ∧
      ∀ calls', (∀ slug, slug ∈ handedOut calls' ↔ slug ∈ handedOut calls) →
        ((run calls').slug text).1 = ((run calls).slug text).1 := by
  have hfirst := ((hasGiven_run calls).slug text).1
  refine ⟨hfirst, nodup_handedOut calls, ?_⟩
  intro calls' hsame
  exact ((hasGiven_run calls').slug text).1.unique hfirst hsame

/-- A heading twice, and another one with the text of its second slug. -/
def repeatedFirst : List Call :=
  [.slug "A", .slug "a", .slug "a-1"]

/-- The same slugs in another order, handed out for other texts, after a reset. -/
def suffixedFirst : List Call :=
  [.slug "b", .reset, .slug "a-1", .slug "A-1", .slug "a!"]

theorem handedOut_repeatedFirst : handedOut repeatedFirst = ["a", "a-1", "a-1-1"] := by
  decide +kernel

theorem handedOut_suffixedFirst : handedOut suffixedFirst = ["a-1", "a-1-1", "a"] := by
  decide +kernel

/-- The numbers beside the slugs differ, and yet the next slug is the same. -/
theorem slug_first_free_otherOrder :
    (run repeatedFirst).counts.get? "a" = some 1 ∧ (run suffixedFirst).counts.get? "a" = some 0 ∧
      (∀ slug, slug ∈ handedOut suffixedFirst ↔ slug ∈ handedOut repeatedFirst) ∧
      IsFirstFree ["a", "a-1", "a-1-1"] "a" ((run repeatedFirst).slug "A").1 ∧
      ((run suffixedFirst).slug "A").1 = ((run repeatedFirst).slug "A").1 := by
  have hsame : ∀ slug, slug ∈ handedOut suffixedFirst ↔ slug ∈ handedOut repeatedFirst := by
    intro slug
    rw [handedOut_repeatedFirst, handedOut_suffixedFirst]
    simp only [List.mem_cons, List.not_mem_nil, or_false]
    tauto
  have hbase : headingSlug "A" = "a" := by decide +kernel
  obtain ⟨hfirst, -, hset⟩ := slug_first_free repeatedFirst "A"
  rw [handedOut_repeatedFirst, hbase] at hfirst
  exact ⟨by decide +kernel, by decide +kernel, hsame, hfirst, hset suffixedFirst hsame⟩

end Slugger

end LinkIndex

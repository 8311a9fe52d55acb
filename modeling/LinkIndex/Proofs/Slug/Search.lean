import LinkIndex.Proofs.Loop
import LinkIndex.Proofs.Slug.Slugger

/-!
The search for a free slug, turn by turn. As long as the slug at hand was handed out
before, the number of the text is looked up, raised and put behind the text. The look-up
could fail, and the search could go on for ever; it does neither. Only a text that has a
number is ever searched for, and every turn shows one more of its candidates among the
slugs that were handed out, which are no more than their number.
-/

namespace LinkIndex.Slugger

inductive Search
  | trying (counts : Assoc String Nat) (slug : String)
  /-- A number was looked up that is not there. -/
  | failed
  deriving DecidableEq, Repr

namespace Search

/-- One turn of the search for `base`. It ends at a slug that is free, or in failure. -/
def turn (base : String) : Search → Option Search
  | .failed => none
  | .trying counts slug =>
    if counts.has slug then
      match counts.get? base with
      | some n =>
        let raised := n + 1
        some (.trying (counts.put base raised)
          (base ++ "-" ++ String.ofList (Text.decimal raised)))
      | none => some .failed
    else none

/-- The number that stands with a text. -/
def number (base : String) : Search → Nat
  | .trying counts _ => (counts.get? base).getD 0
  | .failed => 0

variable {counts : Assoc String Nat} {base slug : String} {n k : Nat} {st st' : Search}

theorem turn_eq_none (h : (trying counts slug).turn base = none) : slug ∉ counts.keys := by
  intro hslug
  rw [turn, if_pos ((Assoc.has_iff _ _).2 hslug)] at h
  split at h <;> cases h

/-- All that a turn does for a text that has a number. -/
theorem turn_eq_some (hn : counts.get? base = some n)
    (h : (trying counts slug).turn base = some st') :
    slug ∈ counts.keys ∧ st' = .trying (counts.put base (n + 1)) (candidate base (n + 1)) := by
  rw [turn] at h
  split at h
  · next hhas =>
      simp only [hn] at h
      rw [candidate, if_neg (Nat.succ_ne_zero n)]
      exact ⟨(Assoc.has_iff _ _).1 hhas, (Option.some.inj h).symm⟩
  · cases h

/-- The invariant of a search that begins where the number of `base` is `n`. After `k` turns the
number has been raised `k` times, no other number has changed, and the candidates in front of the
one at hand are all taken. -/
structure Inv (counts : Assoc String Nat) (base : String) (n k : Nat) (st : Search) : Prop where
  state : st = .trying (counts.put base (n + k)) (if k = 0 then base else candidate base (n + k))
  passed : ∀ j < n + k, candidate base j ∈ counts.keys

theorem Inv.number (hI : Inv counts base n k st) : st.number base = n + k := by
  rw [hI.state, Search.number, Assoc.get?_put_self, Option.getD_some]

section

variable (hn : counts.get? base = some n) (htaken : ∀ j ≤ n, candidate base j ∈ counts.keys)
include hn

theorem keys_put_number (m : Nat) : (counts.put base m).keys = counts.keys := by
  rw [Assoc.keys_put, if_pos (Assoc.mem_keys_of_get? hn)]

include htaken

theorem inv_zero : Inv counts base n 0 (.trying counts base) where
  state := by rw [Nat.add_zero, Assoc.put_of_get? hn, if_pos rfl]
  passed j hj := htaken j (Nat.le_of_lt hj)

theorem Inv.turn (hI : Inv counts base n k st) (hturn : st.turn base = some st') :
    Inv counts base n (k + 1) st' := by
  obtain ⟨rfl, hpassed⟩ := hI
  obtain ⟨hslug, rfl⟩ := turn_eq_some (Assoc.get?_put_self _ _ _) hturn
  rw [keys_put_number hn] at hslug
  have hhere : candidate base (n + k) ∈ counts.keys := by
    split at hslug
    · next hk => exact htaken _ (by omega)
    · exact hslug
  constructor
  · rw [Assoc.put_put, if_neg (Nat.succ_ne_zero k), Nat.add_assoc]
  · intro j hj
    rcases Nat.lt_or_ge j (n + k) with hlt | hge
    · exact hpassed j hlt
    · obtain rfl : j = n + k := by omega
      exact hhere

/-- A turn takes one more of the slugs that were handed out. -/
theorem Inv.number_lt (hI : Inv counts base n k st) (hturn : st.turn base = some st') :
    counts.length - st'.number base < counts.length - st.number base := by
  have hI' := hI.turn hn htaken hturn
  have hroom := le_length_of_candidates hI'.passed
  rw [Assoc.keys, List.length_map] at hroom
  rw [hI.number, hI'.number]
  omega

/-- The search for a text that has a number makes a turn at least, and ends at the first candidate
that is free. -/
theorem exists_runs : ∃ k, 0 < k ∧
    Loop.Runs (turn base) k (.trying counts base)
      (.trying (counts.put base (n + k)) (candidate base (n + k))) ∧
    candidate base (n + k) ∉ counts.keys ∧ ∀ j < n + k, candidate base j ∈ counts.keys := by
  obtain ⟨k, st, hruns, ⟨rfl, hpassed⟩, -⟩ :=
    Loop.exists_runs (turn base) (Inv counts base n)
      (fun st => counts.length - st.number base)
      (fun k st st' hI hturn => ⟨hI.turn hn htaken hturn, hI.number_lt hn htaken hturn⟩)
      (inv_zero hn htaken)
  have hfree := turn_eq_none hruns.turn_eq_none
  rw [keys_put_number hn] at hfree
  have hk : k ≠ 0 := by
    rintro rfl
    exact hfree (Assoc.mem_keys_of_get? hn)
  rw [if_neg hk] at hruns hfree
  exact ⟨k, Nat.pos_of_ne_zero hk, hruns, hfree, hpassed⟩

end

end Search

/-- What is handed out for a text that has a number is the first candidate that is free, and its
number is kept. -/
theorem slug_eq_candidate {s : Slugger} {text : String} {n m : Nat}
    (hn : s.counts.get? (headingSlug text) = some n)
    (htaken : ∀ j ≤ n, candidate (headingSlug text) j ∈ s.counts.keys)
    (hfree : candidate (headingSlug text) m ∉ s.counts.keys)
    (hpassed : ∀ j < m, candidate (headingSlug text) j ∈ s.counts.keys) :
    s.slug text = (candidate (headingSlug text) m,
      ⟨(s.counts.put (headingSlug text) m).put (candidate (headingSlug text) m) 0⟩) := by
  have hstart : ∀ j < n + 1, candidate (headingSlug text) j ∈ s.counts.keys :=
    fun j hj => htaken j (Nat.le_of_lt_succ hj)
  have hfirst : IsFirstFree s.counts.keys (headingSlug text) (candidate (headingSlug text) m) :=
    ⟨m, rfl, hfree, hpassed⟩
  have hcandidate := (isFirstFree_firstFree hstart).unique hfirst fun _ => Iff.rfl
  rw [slug, hn]
  show (candidate _ (firstFree _ _ _ (n + 1)), _) = _
  rw [candidate_injective _ hcandidate]

/-- After any calls, the search for a slug never looks up a number that is not there. It ends
after no more turns than there are slugs that were handed out since the last reset, with the slug
that is returned; and this is the text itself, or the text with a number that is no greater. -/
theorem search_bounded (calls : List Call) (text : String) :
    ∃ turns counts slug,
      Loop.Runs (Search.turn (headingSlug text)) turns
        (.trying (run calls).counts (headingSlug text)) (.trying counts slug) ∧
      turns ≤ (handedOut calls).length ∧
      (run calls).slug text = (slug, ⟨counts.put slug 0⟩) ∧
      (slug = headingSlug text ∨ ∃ k, 1 ≤ k ∧ k ≤ (handedOut calls).length ∧
        slug = headingSlug text ++ "-" ++ String.ofList (Text.decimal k)) := by
  have hgiven := hasGiven_run calls
  cases hn : (run calls).counts.get? (headingSlug text) with
  | none =>
      have hfree : ¬ (run calls).counts.has (headingSlug text) = true := by
        rw [Assoc.has, hn]
        exact Bool.false_ne_true
      refine ⟨0, _, _, .ended ?_, Nat.zero_le _, ?_, .inl rfl⟩
      · rw [Search.turn, if_neg hfree]
      · rw [slug, hn]
  | some n =>
      have htaken : ∀ j ≤ n, candidate (headingSlug text) j ∈ (run calls).counts.keys := by
        rw [hgiven.keys]
        exact hgiven.taken _ n hn
      obtain ⟨k, hk, hruns, hfree, hpassed⟩ := Search.exists_runs hn htaken
      have hroom : n + k ≤ (handedOut calls).length := by
        rw [← hgiven.keys]
        exact le_length_of_candidates hpassed
      refine ⟨k, _, _, hruns, by omega, slug_eq_candidate hn htaken hfree hpassed, .inr ?_⟩
      refine ⟨n + k, by omega, hroom, ?_⟩
      rw [candidate, if_neg (by omega)]

end LinkIndex.Slugger

import LinkIndex.Assoc
import Mathlib.Data.List.Induction

/-!
An association list is known by its keys and its look-ups. Keys stand once
each, so a list with given keys and given values is one list only.
-/

namespace LinkIndex.Assoc

variable {α β : Type}

@[simp] theorem keys_cons (p : α × β) (m : Assoc α β) : keys (p :: m) = p.1 :: keys m := rfl

variable [DecidableEq α]

theorem get?_eq_none_iff (m : Assoc α β) (k : α) : m.get? k = none ↔ k ∉ m.keys := by
  induction m with
  | nil => simp [keys]
  | cons p rest ih =>
      by_cases h : p.1 = k
      · simp [get?, h]
      · simp [get?, h, ih, Ne.symm h]

theorem has_iff (m : Assoc α β) (k : α) : m.has k = true ↔ k ∈ m.keys := by
  rw [has, Option.isSome_iff_ne_none, ne_eq, get?_eq_none_iff, Classical.not_not]

theorem mem_of_get? {m : Assoc α β} {k : α} {v : β} (h : m.get? k = some v) : (k, v) ∈ m := by
  induction m with
  | nil => simp at h
  | cons p rest ih =>
      by_cases hp : p.1 = k
      · obtain rfl : p.2 = v := by simpa [get?, hp] using h
        simp [← hp]
      · exact List.mem_cons_of_mem p (ih (by simpa [get?, hp] using h))

theorem mem_keys_of_get? {m : Assoc α β} {k : α} {v : β} (h : m.get? k = some v) : k ∈ m.keys :=
  List.mem_map_of_mem (mem_of_get? h)

theorem get?_of_mem {m : Assoc α β} (hnd : m.keys.Nodup) {p : α × β} (h : p ∈ m) :
    m.get? p.1 = some p.2 := by
  induction m with
  | nil => exact absurd h List.not_mem_nil
  | cons q rest ih =>
      rw [keys_cons, List.nodup_cons] at hnd
      rcases List.mem_cons.1 h with rfl | h
      · simp [get?]
      · have hne : q.1 ≠ p.1 := fun e => hnd.1 (e ▸ List.mem_map_of_mem h)
        simpa [get?, hne] using ih hnd.2 h

theorem get?_append (m m' : Assoc α β) (k : α) :
    get? (m ++ m') k = (m.get? k).or (m'.get? k) := by
  induction m with
  | nil => rfl
  | cons p rest ih =>
      by_cases hp : p.1 = k
      · simp [get?, hp]
      · simpa [get?, hp] using ih

/-- A list whose keys stand once each is made up of its keys and their values. -/
theorem eq_map_of_get? (m : Assoc α β) (f : α → β) (hnd : m.keys.Nodup)
    (hget : ∀ k ∈ m.keys, m.get? k = some (f k)) : m = m.keys.map fun k => (k, f k) := by
  induction m with
  | nil => rfl
  | cons p rest ih =>
      rw [keys_cons, List.nodup_cons] at hnd
      have hhead : p.2 = f p.1 := by
        simpa [get?] using hget p.1 (by simp)
      have hrest : ∀ k ∈ keys rest, get? rest k = some (f k) := by
        intro k hk
        have hne : p.1 ≠ k := fun h => hnd.1 (h ▸ hk)
        simpa [get?, hne] using hget k (by simp [hk])
      rw [keys_cons, List.map_cons, ← ih hnd.2 hrest, ← hhead]

/-! ### Lists without one of their keys -/

theorem erase_put (m : Assoc α β) (k : α) (v : β) : (m.put k v).erase k = m.erase k := by
  induction m with
  | nil => simp [put, erase]
  | cons p rest ih =>
      by_cases hp : p.1 = k
      · simp [put, erase, hp]
      · simpa [put, erase, hp] using ih

theorem erase_erase (m : Assoc α β) (k : α) : (m.erase k).erase k = m.erase k := by
  simp [erase]

/-! ### Lists of pairs that are put one after the other -/

theorem get?_put (m : Assoc α β) (k k' : α) (v : β) :
    (m.put k v).get? k' = if k = k' then some v else m.get? k' := by
  by_cases h : k = k'
  · subst h
    simp
  · simp [h, get?_put_of_ne]

theorem nodup_keys_put {m : Assoc α β} (hnd : m.keys.Nodup) (k : α) (v : β) :
    (m.put k v).keys.Nodup := by
  rw [keys_put]
  split
  · exact hnd
  · next hk => simpa [List.nodup_append] using ⟨hnd, fun a ha hak => hk (hak ▸ ha)⟩

theorem mem_put {m : Assoc α β} {k : α} {v : β} {p : α × β} (h : p ∈ m.put k v) :
    p = (k, v) ∨ p ∈ m := by
  induction m with
  | nil => simpa [put] using h
  | cons q rest ih =>
      by_cases hq : q.1 = k
      · rw [put, if_pos hq, List.mem_cons] at h
        rcases h with rfl | h
        · exact .inl (by rw [hq])
        · exact .inr (List.mem_cons_of_mem q h)
      · rw [put, if_neg hq, List.mem_cons] at h
        rcases h with rfl | h
        · exact .inr List.mem_cons_self
        · exact (ih h).imp id (List.mem_cons_of_mem q)

theorem put_of_not_mem {m : Assoc α β} {k : α} (v : β) (h : k ∉ m.keys) :
    m.put k v = m ++ [(k, v)] := by
  induction m with
  | nil => rfl
  | cons p rest ih =>
      rw [keys_cons, List.mem_cons, not_or] at h
      rw [put, if_neg (Ne.symm h.1), ih h.2, List.cons_append]

/-- Of two values that are put under one key the later one counts. -/
theorem put_put (m : Assoc α β) (k : α) (v v' : β) : (m.put k v).put k v' = m.put k v' := by
  induction m with
  | nil => simp [put]
  | cons p rest ih =>
      by_cases hp : p.1 = k
      · simp [put, hp]
      · simp [put, hp, ih]

theorem put_of_get? {m : Assoc α β} {k : α} {v : β} (h : m.get? k = some v) : m.put k v = m := by
  induction m with
  | nil => cases h
  | cons p rest ih =>
      by_cases hp : p.1 = k
      · obtain rfl : p.2 = v := by simpa [get?, hp] using h
        rw [put, if_pos hp]
      · rw [put, if_neg hp, ih (by simpa [get?, hp] using h)]

theorem ofList_concat (pairs : List (α × β)) (p : α × β) :
    ofList (pairs ++ [p]) = (ofList pairs).put p.1 p.2 := by
  rw [ofList, List.foldl_append]
  rfl

theorem nodup_keys_ofList (pairs : List (α × β)) : (ofList pairs).keys.Nodup := by
  induction pairs using List.reverseRecOn with
  | nil => exact List.nodup_nil
  | append_singleton pairs p ih =>
      rw [ofList_concat]
      exact nodup_keys_put ih p.1 p.2

theorem mem_of_mem_ofList {pairs : List (α × β)} {p : α × β} (h : p ∈ ofList pairs) :
    p ∈ pairs := by
  induction pairs using List.reverseRecOn with
  | nil => exact h
  | append_singleton pairs q ih =>
      rw [ofList_concat] at h
      rcases mem_put h with rfl | h
      · simp
      · exact List.mem_append_left [q] (ih h)

/-- Pairs whose keys are different stay as they are. -/
theorem ofList_of_nodup {pairs : List (α × β)} (hnd : keys pairs |>.Nodup) :
    ofList pairs = pairs := by
  induction pairs using List.reverseRecOn with
  | nil => rfl
  | append_singleton pairs p ih =>
      rw [keys, List.map_append, List.nodup_append] at hnd
      have hk : p.1 ∉ keys pairs := fun h => hnd.2.2 p.1 h p.1 (by simp) rfl
      rw [ofList_concat, ih hnd.1, put_of_not_mem p.2 hk]

/-- Renaming keys does not change what is found under a key to which no other one
is renamed. -/
theorem get?_ofList_map {γ : Type} [DecidableEq γ] {f : α → γ} {pairs : List (α × β)} {k : α}
    (hf : ∀ p ∈ pairs, f p.1 = f k → p.1 = k) :
    (ofList (pairs.map fun p => (f p.1, p.2))).get? (f k) = (ofList pairs).get? k := by
  induction pairs using List.reverseRecOn with
  | nil => rfl
  | append_singleton pairs p ih =>
      have hp : f p.1 = f k ↔ p.1 = k := ⟨hf p (by simp), fun h => by rw [h]⟩
      have hrest := ih fun q hq => hf q (List.mem_append_left [p] hq)
      rw [List.map_append, List.map_singleton, ofList_concat, ofList_concat, get?_put, get?_put,
        hrest]
      by_cases hk : p.1 = k
      · rw [if_pos (hp.2 hk), if_pos hk]
      · rw [if_neg (mt hp.1 hk), if_neg hk]

/-! ### Keys that are renamed -/

variable {γ δ : Type} [DecidableEq γ] {f : α → γ} {g : β → δ}

theorem get?_map (hf : Function.Injective f) (m : Assoc α β) (k : α) :
    get? (m.map fun p => (f p.1, g p.2)) (f k) = (m.get? k).map g := by
  induction m with
  | nil => rfl
  | cons p rest ih =>
      rw [List.map_cons, get?, get?, ih]
      by_cases hp : p.1 = k
      · rw [if_pos hp, if_pos (congrArg f hp), Option.map_some]
      · rw [if_neg hp, if_neg (hf.ne hp)]

theorem put_map (hf : Function.Injective f) (m : Assoc α β) (k : α) (v : β) :
    put (m.map fun p => (f p.1, g p.2)) (f k) (g v) =
      (m.put k v).map fun p => (f p.1, g p.2) := by
  induction m with
  | nil => rfl
  | cons p rest ih =>
      rw [List.map_cons, put, put, ih]
      by_cases hp : p.1 = k
      · rw [if_pos hp, if_pos (congrArg f hp), List.map_cons]
      · rw [if_neg hp, if_neg (hf.ne hp), List.map_cons]

theorem ofList_map (hf : Function.Injective f) (pairs : List (α × β)) :
    ofList (pairs.map fun p => (f p.1, g p.2)) =
      (ofList pairs).map fun p => (f p.1, g p.2) := by
  induction pairs using List.reverseRecOn with
  | nil => rfl
  | append_singleton pairs p ih =>
      rw [List.map_append, List.map_singleton, ofList_concat, ofList_concat, ih, put_map hf]

end LinkIndex.Assoc

import LinkIndex.Text.Order
import Mathlib.Data.List.DropRight
import Mathlib.Data.List.Pairwise

/-!
Lists in order. Sorting by places that go up gives the list back; taking out
repetitions leaves none; and lists of names are in a total order.
-/

namespace LinkIndex

/-- Where the places `f` of the members of a list go up, the list is what comes
of sorting its members by their places, in whatever order they were. -/
theorem eq_mergeSort_of_pairwise_lt {α : Type} {f : α → Nat} {l l' : List α}
    (horder : l.Pairwise fun a b => f a < f b) (hperm : l.Perm l') :
    l = l'.mergeSort fun a b => f a ≤ f b := by
  let le (a b : α) : Bool := f a ≤ f b
  have htrans (a b c : α) (hab : le a b) (hbc : le b c) : le a c := by
    simp only [le, decide_eq_true_eq] at *
    omega
  have htotal (a b : α) : (le a b || le b a) = true := by
    simpa [le] using Nat.le_total _ _
  have hsorted : (l'.mergeSort le).Pairwise fun a b => f a ≤ f b :=
    (List.pairwise_mergeSort htrans htotal l').imp of_decide_eq_true
  have hperm' : l.Perm (l'.mergeSort le) := hperm.trans (List.mergeSort_perm l' le).symm
  -- Two members never share a place, so there is one order only.
  have : Std.Symm fun a b => f a ≠ f b := ⟨fun _ _ => Ne.symm⟩
  have hdistinct : l.Pairwise fun a b => f a ≠ f b := horder.imp Nat.ne_of_lt
  refine hperm'.eq_of_pairwise ?_ (horder.imp Nat.le_of_lt) hsorted
  intro a b ha hb hab hba
  by_contra hne
  exact hdistinct.forall ha (hperm'.mem_iff.2 hb) hne (Nat.le_antisymm hab hba)

theorem eraseDups_concat {α : Type} [BEq α] [LawfulBEq α] (l : List α) (a : α) :
    (l ++ [a]).eraseDups = if a ∈ l then l.eraseDups else l.eraseDups ++ [a] := by
  rw [List.eraseDups_append]
  by_cases ha : a ∈ l <;> simp [ha, List.removeAll, List.eraseDups_cons]

theorem nodup_eraseDups {α : Type} [BEq α] [LawfulBEq α] (l : List α) : l.eraseDups.Nodup := by
  induction l using List.reverseRecOn with
  | nil => exact List.nodup_nil
  | append_singleton l a ih =>
      rw [eraseDups_concat]
      split
      · exact ih
      · rename_i hnew
        refine List.nodup_append.2 ⟨ih, by simp, ?_⟩
        intro b hb c hc
        rw [List.mem_singleton.1 hc]
        exact ne_of_mem_of_not_mem (List.mem_eraseDups.1 hb) hnew

/-! ### Lists of names -/

/-- The order of names is the one of lists, said by what is not less. -/
theorem namesLE_iff {l₁ l₂ : List String} : namesLE l₁ l₂ = true ↔ ¬l₂ < l₁ := by
  induction l₁ generalizing l₂ with
  | nil => simp [namesLE]
  | cons a l₁ ih =>
      cases l₂ with
      | nil => simp [namesLE]
      | cons b l₂ =>
          rw [namesLE, List.cons_lt_cons_iff]
          by_cases hab : a = b
          · rw [hab, if_pos rfl, ih, or_iff_right (String.lt_irrefl b), and_iff_right rfl]
          · have hlt : a < b ↔ ¬b < a :=
              ⟨String.lt_asymm, fun hnot => String.not_le.1 fun hle =>
                hab (String.le_antisymm (String.not_lt.1 hnot) hle)⟩
            simp [hab, Ne.symm hab, hlt]

theorem namesLE_trans (l₁ l₂ l₃ : List String) (h₁₂ : namesLE l₁ l₂) (h₂₃ : namesLE l₂ l₃) :
    namesLE l₁ l₃ := by
  rw [namesLE_iff] at *
  exact List.le_trans h₁₂ h₂₃

theorem namesLE_total (l₁ l₂ : List String) : (namesLE l₁ l₂ || namesLE l₂ l₁) = true := by
  rw [Bool.or_eq_true, namesLE_iff, namesLE_iff]
  exact List.le_total l₁ l₂

theorem namesLE_antisymm {l₁ l₂ : List String} (h₁₂ : namesLE l₁ l₂) (h₂₁ : namesLE l₂ l₁) :
    l₁ = l₂ := by
  rw [namesLE_iff] at *
  exact List.le_antisymm h₁₂ h₂₁

/-- Of two different lists of names in order, the first one is less. -/
theorem lt_of_namesLE {l₁ l₂ : List String} (h : namesLE l₁ l₂) (hne : l₁ ≠ l₂) : l₁ < l₂ := by
  by_contra hnot
  exact hne (namesLE_antisymm h (namesLE_iff.2 hnot))

/-- Lists of names in order, none of them twice, are told apart by their members. -/
theorem eq_of_pairwise_namesLE {ls ls' : List (List String)}
    (horder : ls.Pairwise fun a b => namesLE a b) (horder' : ls'.Pairwise fun a b => namesLE a b)
    (hnd : ls.Nodup) (hnd' : ls'.Nodup) (hmem : ∀ l, l ∈ ls ↔ l ∈ ls') : ls = ls' :=
  ((List.perm_ext_iff_of_nodup hnd hnd').2 hmem).eq_of_pairwise
    (fun _ _ _ _ hab hba => namesLE_antisymm hab hba) horder horder'

end LinkIndex

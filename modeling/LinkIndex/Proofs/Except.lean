/-!
Computations that may fail, and when they do not: a sequence succeeds where each of its
steps does.
-/

namespace LinkIndex

variable {ε α β γ : Type}

@[simp] theorem pure_eq_ok_iff {a b : α} : (pure a : Except ε α) = .ok b ↔ a = b := by
  simp [pure, Except.pure]

@[simp] theorem bind_eq_ok_iff {x : Except ε α} {f : α → Except ε β} {b : β} :
    (x >>= f) = .ok b ↔ ∃ a, x = .ok a ∧ f a = .ok b := by
  cases x <;> simp [bind, Except.bind]

@[simp] theorem map_eq_ok_iff {x : Except ε α} {f : α → β} {b : β} :
    (f <$> x) = .ok b ↔ ∃ a, x = .ok a ∧ f a = b := by
  cases x <;> simp [Functor.map, Except.map]

theorem exists_bind_eq_ok_iff {x : Except ε α} {f : α → Except ε β} :
    (∃ b, (x >>= f) = .ok b) ↔ ∃ a, x = .ok a ∧ ∃ b, f a = .ok b := by
  cases x <;> simp [bind, Except.bind]

theorem exists_pure_eq_ok (a : α) : ∃ b, (pure a : Except ε α) = .ok b :=
  ⟨a, rfl⟩

/-- What is seen of the results of a list is what is seen of its elements. -/
theorem flatMap_of_mapM_eq_ok {f : α → Except ε β} {xs : List α} {ys : List β}
    {view : β → List γ} {own : α → List γ} (h : xs.mapM f = .ok ys)
    (hview : ∀ x ∈ xs, ∀ y, f x = .ok y → view y = own x) : ys.flatMap view = xs.flatMap own := by
  induction xs generalizing ys with
  | nil =>
      obtain rfl : [] = ys := by simpa using h
      rfl
  | cons x rest ih =>
      obtain ⟨y, hy, ys', hys, rfl⟩ : ∃ y, f x = .ok y ∧ ∃ ys', rest.mapM f = .ok ys' ∧
          y :: ys' = ys := by simpa using h
      obtain ⟨hx, hrest⟩ := List.forall_mem_cons.1 hview
      rw [List.flatMap_cons, List.flatMap_cons, hx y hy, ih hys hrest]

/-- Every element of a list has a result just where the list has. -/
theorem exists_mapM_eq_ok_iff {f : α → Except ε β} {xs : List α} :
    (∃ ys, xs.mapM f = .ok ys) ↔ ∀ x ∈ xs, ∃ y, f x = .ok y := by
  induction xs with
  | nil => simp
  | cons x rest ih =>
      rw [List.forall_mem_cons, ← ih]
      simp only [List.mapM_cons, exists_bind_eq_ok_iff, exists_pure_eq_ok, and_true,
        exists_and_right]

end LinkIndex

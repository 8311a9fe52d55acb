/-!
Loops, said turn by turn. A turn of a loop gives the next state, or nothing where the
loop ends; so a run of the loop is so many turns in a row, and a state in which no turn
is left. That a loop ends at all is shown by a number that every turn makes smaller.
-/

namespace LinkIndex.Loop

variable {σ : Type} {turn : σ → Option σ}

/-- The loop that starts in a state ends in another one, after so many turns. -/
inductive Runs (turn : σ → Option σ) : Nat → σ → σ → Prop
  | ended {s : σ} (h : turn s = none) : Runs turn 0 s s
  | turned {n : Nat} {s s' t : σ} (h : turn s = some s') (rest : Runs turn n s' t) :
      Runs turn (n + 1) s t

/-- Nothing is left to do where a run ends. -/
theorem Runs.turn_eq_none {n : Nat} {s t : σ} (h : Runs turn n s t) : turn t = none := by
  induction h with
  | ended h => exact h
  | turned _ _ ih => exact ih

/-- The rule for loops. The invariant may speak of the number of turns that have been made, and
the variant pays for each turn: what is left of it at the end and the number of turns are no more
than it was in the beginning. -/
theorem exists_runs (turn : σ → Option σ) (I : Nat → σ → Prop) (V : σ → Nat)
    (hstep : ∀ k s s', I k s → turn s = some s' → I (k + 1) s' ∧ V s' < V s)
    {s : σ} (hI : I 0 s) : ∃ n t, Runs turn n s t ∧ I n t ∧ n + V t ≤ V s := by
  suffices H : ∀ v k s, V s = v → I k s →
      ∃ n t, Runs turn n s t ∧ I (k + n) t ∧ n + V t ≤ v by
    obtain ⟨n, t, hruns, hend, hpaid⟩ := H (V s) 0 s rfl hI
    rw [Nat.zero_add] at hend
    exact ⟨n, t, hruns, hend, hpaid⟩
  intro v
  induction v using Nat.strongRecOn with
  | ind v ih =>
      intro k s hv hI
      cases hturn : turn s with
      | none => exact ⟨0, s, .ended hturn, hI, by omega⟩
      | some s' =>
          obtain ⟨hI', hless⟩ := hstep k s s' hI hturn
          obtain ⟨n, t, hruns, hend, hpaid⟩ := ih (V s') (by omega) (k + 1) s' rfl hI'
          refine ⟨n + 1, t, .turned hturn hruns, ?_, by omega⟩
          rw [show k + (n + 1) = k + 1 + n by omega]
          exact hend

end LinkIndex.Loop

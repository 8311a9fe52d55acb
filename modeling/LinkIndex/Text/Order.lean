/-!
The order of lists of names: name by name, each by its code points, and a list
before the lists that go on where it ends.
-/

namespace LinkIndex

/-- Whether one list of names comes before another or is the same. -/
def namesLE : List String → List String → Bool
  | [], _ => true
  | _ :: _, [] => false
  | a :: as, b :: bs => if a = b then namesLE as bs else decide (a < b)

theorem namesLE_refl (names : List String) : namesLE names names = true := by
  induction names with
  | nil => rfl
  | cons a rest ih => simp [namesLE, ih]

end LinkIndex

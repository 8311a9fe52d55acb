/-!
Association lists in insertion order, one pair per key. A key that is put again
keeps its place and takes the new value; a key that was erased and put again
stands at the end.
-/

namespace LinkIndex

/-- Pairs of a key and its value, in the order in which the keys were first put. -/
abbrev Assoc (α β : Type) := List (α × β)

namespace Assoc

variable {α β : Type} [DecidableEq α]

def keys (m : Assoc α β) : List α :=
  m.map (·.1)

def get? (m : Assoc α β) (k : α) : Option β :=
  match m with
  | [] => none
  | (k', v) :: rest => if k' = k then some v else get? rest k

def has (m : Assoc α β) (k : α) : Bool :=
  (m.get? k).isSome

/-- Gives `k` the value `v`: in its place if it is present, at the end if not. -/
def put (m : Assoc α β) (k : α) (v : β) : Assoc α β :=
  match m with
  | [] => [(k, v)]
  | (k', v') :: rest => if k' = k then (k', v) :: rest else (k', v') :: put rest k v

def erase (m : Assoc α β) (k : α) : Assoc α β :=
  m.filter fun p => p.1 ≠ k

def ofList (pairs : List (α × β)) : Assoc α β :=
  pairs.foldl (fun m p => m.put p.1 p.2) []

@[simp] theorem get?_nil (k : α) : get? ([] : Assoc α β) k = none := rfl

@[simp] theorem get?_put_self (m : Assoc α β) (k : α) (v : β) :
    (m.put k v).get? k = some v := by
  induction m with
  | nil => simp [put, get?]
  | cons p rest ih => by_cases h : p.1 = k <;> simp [put, get?, h, ih]

theorem get?_put_of_ne (m : Assoc α β) {k k' : α} (v : β) (h : k ≠ k') :
    (m.put k v).get? k' = m.get? k' := by
  induction m with
  | nil => simp [put, get?, h]
  | cons p rest ih =>
    by_cases hp : p.1 = k
    · subst hp
      simp [put, get?, h]
    · simp [put, get?, hp, ih]

@[simp] theorem get?_erase_self (m : Assoc α β) (k : α) : (m.erase k).get? k = none := by
  induction m with
  | nil => rfl
  | cons p rest ih =>
    by_cases h : p.1 = k
    · simpa [erase, List.filter, h] using ih
    · simpa [erase, List.filter, h, get?] using ih

theorem get?_erase_of_ne (m : Assoc α β) {k k' : α} (h : k ≠ k') :
    (m.erase k).get? k' = m.get? k' := by
  induction m with
  | nil => rfl
  | cons p rest ih =>
    by_cases hp : p.1 = k
    · subst hp
      simpa [erase, List.filter, get?, h] using ih
    · by_cases hk : p.1 = k' <;> simp_all [erase, List.filter, get?]

theorem keys_put (m : Assoc α β) (k : α) (v : β) :
    (m.put k v).keys = if k ∈ m.keys then m.keys else m.keys ++ [k] := by
  induction m with
  | nil => simp [put, keys]
  | cons p rest ih =>
    by_cases h : p.1 = k
    · simp [put, keys, h]
    · simp only [keys] at ih
      have hk : ¬ k = p.1 := fun e => h e.symm
      simp only [put, keys, h, if_false, List.map_cons, ih, List.mem_cons, hk, false_or]
      split <;> simp_all

@[simp] theorem keys_erase (m : Assoc α β) (k : α) :
    (m.erase k).keys = m.keys.filter (· ≠ k) := by
  induction m with
  | nil => rfl
  | cons p rest ih => by_cases h : p.1 = k <;> simp_all [erase, keys, List.filter]

end Assoc

end LinkIndex

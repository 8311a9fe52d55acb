import LinkIndex.Proofs.Loop
import LinkIndex.Proofs.Tree.Edit
import Mathlib.Data.List.Basic

/-!
The walk through a document. It is a loop with a stack: a turn takes a tree off the top
of the stack, visits its node, and lays the children on the stack, the first of them on
top. What is pending on the stack is the rest of the document order, turned around; so
the walk comes to its end, with one turn for each node. It has then been once at each
place of the document, in the order in which places are sorted.
-/

namespace LinkIndex.Tree

theorem walkPending_cons (t : Tree) (pending : List Tree) :
    walkPending (t :: pending) = t :: walkPending (t.children ++ pending) := by
  cases t with
  | leaf l => rw [walkPending, children, List.nil_append]
  | element e children => rw [walkPending, Tree.children]

theorem sizeAll_cons (t : Tree) (pending : List Tree) :
    sizeAll (t :: pending) = sizeAll (t.children ++ pending) + 1 := by
  rw [sizeAll_append, sizeAll]
  cases t with
  | leaf l =>
      rw [size, children, sizeAll]
      omega
  | element e children =>
      rw [size, Tree.children]
      omega

theorem length_walkPending (pending : List Tree) :
    (walkPending pending).length = sizeAll pending := by
  fun_induction walkPending pending with
  | case1 => rw [sizeAll, List.length_nil]
  | case2 l pending ih => rw [List.length_cons, ih, sizeAll_cons, children, List.nil_append]
  | case3 e children pending ih => rw [List.length_cons, ih, sizeAll_cons, Tree.children]

theorem length_walk (t : Tree) : t.walk.length = t.size := by
  rw [walk, length_walkPending, sizeAll, sizeAll, Nat.add_zero]

/-- The nodes of a document are its own node and then those of its children, one child after the
other. -/
theorem walk_eq_cons (t : Tree) : t.walk = t :: t.children.flatMap walk := by
  have hchildren : t.children.flatMap walk = t.children.flatMap preorder :=
    List.flatMap_congr fun c _ => walk_eq_preorder c
  rw [hchildren, walk_eq_preorder, preorder_eq]

/-! ### The loop -/

structure Walk where
  /-- The nodes it has been at. -/
  visited : List Tree := []
  /-- The trees it has still to go through, the next one on top, which is the end. -/
  stack : List Tree

namespace Walk

variable {w w' : Walk} {t : Tree} {k : Nat}

/-- What has still to be gone through, the next tree first. -/
def pending (w : Walk) : List Tree :=
  w.stack.reverse

/-- One turn. The children are laid on the stack from the last one to the first one. -/
def turn (w : Walk) : Option Walk :=
  match w.stack.getLast? with
  | none => none
  | some t => some ⟨w.visited ++ [t], w.stack.dropLast ++ t.children.reverse⟩

theorem turn_eq_none (h : w.turn = none) : w.stack = [] := by
  rw [turn] at h
  split at h
  · next hlast => exact List.getLast?_eq_none_iff.1 hlast
  · cases h

/-- All that a turn does: the next tree is visited, and its children take its place. -/
theorem turn_eq_some (h : w.turn = some w') :
    ∃ t pending, w.pending = t :: pending ∧ w'.visited = w.visited ++ [t] ∧
      w'.pending = t.children ++ pending := by
  rw [turn] at h
  split at h
  · cases h
  · next t hlast =>
      obtain ⟨below, hstack⟩ := List.getLast?_eq_some_iff.1 hlast
      obtain rfl := Option.some.inj h
      refine ⟨t, below.reverse, ?_, rfl, ?_⟩
      · rw [pending, hstack, List.reverse_concat]
      · simp [pending, hstack]

/-- The invariant of the walk through `t`, after `k` turns: the nodes it has been at and those
that are pending are all the nodes in order, and there was one node for each turn. -/
structure Inv (t : Tree) (k : Nat) (w : Walk) : Prop where
  nodes : w.visited ++ walkPending w.pending = t.walk
  turns : w.visited.length = k

theorem Inv.turn (hI : Inv t k w) (hturn : w.turn = some w') : Inv t (k + 1) w' := by
  obtain ⟨next, pending, hpending, hvisited, hpending'⟩ := turn_eq_some hturn
  constructor
  · rw [hvisited, hpending', List.append_assoc, List.singleton_append, ← walkPending_cons,
      ← hpending]
    exact hI.nodes
  · rw [hvisited, List.length_append, hI.turns, List.length_singleton]

/-- A turn leaves one node less. -/
theorem sizeAll_turn (hturn : w.turn = some w') : sizeAll w'.pending < sizeAll w.pending := by
  obtain ⟨next, pending, hpending, -, hpending'⟩ := turn_eq_some hturn
  rw [hpending, hpending', sizeAll_cons]
  omega

/-- The walk through a document ends, after one turn for each node, and it has then been at the
nodes in order. -/
theorem runs (t : Tree) : Loop.Runs Walk.turn t.size { stack := [t] } ⟨t.walk, []⟩ := by
  have hI : Inv t 0 { stack := [t] } := ⟨rfl, rfl⟩
  obtain ⟨n, ⟨visited, stack⟩, hruns, hend, -⟩ :=
    Loop.exists_runs Walk.turn (Inv t) (fun w => sizeAll w.pending)
      (fun k w w' hI hturn => ⟨hI.turn hturn, sizeAll_turn hturn⟩) hI
  obtain rfl : stack = [] := turn_eq_none hruns.turn_eq_none
  have hvisited : visited = t.walk := by
    simpa [Walk.pending, walkPending] using hend.nodes
  have hn : n = t.size := by
    rw [← length_walk, ← hvisited, hend.turns]
  rw [hn, hvisited] at hruns
  exact hruns

end Walk

/-! ### Places -/

/-- The node at a place. A place is given by the way to it: which child to go to, counted from
zero, and so on from there. -/
def at? (t : Tree) : List Nat → Option Tree
  | [] => some t
  | i :: rest => t.children[i]?.bind fun child => child.at? rest

mutual

/-- The places of a document in document order, each with its node. -/
def occurrences : Tree → List (List Nat × Tree)
  | .leaf l => [([], .leaf l)]
  | .element e children => ([], .element e children) :: occurrencesFrom 0 children

/-- The places of several documents, which are the children from the `i`-th one on. -/
def occurrencesFrom (i : Nat) : List Tree → List (List Nat × Tree)
  | [] => []
  | t :: rest => (occurrences t).map (fun o => (i :: o.1, o.2)) ++ occurrencesFrom (i + 1) rest

end

theorem occurrences_eq (t : Tree) : t.occurrences = ([], t) :: occurrencesFrom 0 t.children := by
  cases t with
  | leaf l => rw [occurrences, children, occurrencesFrom]
  | element e children => rw [occurrences, Tree.children]

theorem mem_occurrencesFrom {ts : List Tree} {i : Nat} {p : List Nat} {n : Tree} :
    (p, n) ∈ occurrencesFrom i ts ↔
      ∃ j q t, p = (i + j) :: q ∧ ts[j]? = some t ∧ (q, n) ∈ t.occurrences := by
  induction ts generalizing i with
  | nil => simp [occurrencesFrom]
  | cons t rest ih =>
      rw [occurrencesFrom, List.mem_append, List.mem_map, ih]
      constructor
      · rintro (⟨⟨q, n⟩, ho, heq⟩ | ⟨j, q, c, rfl, hc, ho⟩)
        · cases heq
          exact ⟨0, q, t, rfl, rfl, ho⟩
        · exact ⟨j + 1, q, c, by rw [Nat.add_right_comm, Nat.add_assoc], hc, ho⟩
      · rintro ⟨_ | j, q, c, rfl, hc, ho⟩
        · obtain rfl := Option.some.inj hc
          exact .inl ⟨(q, n), ho, rfl⟩
        · exact .inr ⟨j, q, c, by rw [Nat.add_right_comm, Nat.add_assoc], hc, ho⟩

/-- The places are just those at which there is a node. -/
theorem mem_occurrences {t : Tree} {p : List Nat} {n : Tree} :
    (p, n) ∈ t.occurrences ↔ t.at? p = some n := by
  induction p generalizing t with
  | nil =>
      rw [occurrences_eq, List.mem_cons, mem_occurrencesFrom, at?]
      simp [eq_comm]
  | cons i rest ih =>
      rw [occurrences_eq, List.mem_cons, mem_occurrencesFrom, at?, Option.bind_eq_some_iff]
      constructor
      · rintro (heq | ⟨j, q, c, heq, hc, ho⟩)
        · cases heq
        · rw [Nat.zero_add] at heq
          obtain ⟨rfl, rfl⟩ := List.cons.inj heq
          exact ⟨c, hc, ih.1 ho⟩
      · rintro ⟨c, hc, hn⟩
        exact .inr ⟨i, rest, c, by rw [Nat.zero_add], hc, ih.2 hn⟩

theorem map_snd_occurrencesFrom {ts : List Tree} (i : Nat)
    (h : ∀ t ∈ ts, t.occurrences.map (·.2) = t.preorder) :
    (occurrencesFrom i ts).map (·.2) = ts.flatMap preorder := by
  induction ts generalizing i with
  | nil => rw [occurrencesFrom, List.map_nil, List.flatMap_nil]
  | cons t rest ih =>
      rw [List.forall_mem_cons] at h
      rw [occurrencesFrom, List.map_append, List.map_map, List.flatMap_cons, ih _ h.2, ← h.1]
      rfl

/-- The nodes of the places are the nodes in document order. -/
theorem map_snd_occurrences (t : Tree) : t.occurrences.map (·.2) = t.preorder := by
  induction t using Tree.induction with
  | leaf l => rw [occurrences, preorder_leaf, List.map_cons, List.map_nil]
  | element e children ih =>
      rw [occurrences, preorder_element, List.map_cons, map_snd_occurrencesFrom 0 ih]

theorem pairwise_occurrencesFrom {ts : List Tree} (i : Nat)
    (h : ∀ t ∈ ts, (t.occurrences.map (·.1)).Pairwise (· < ·)) :
    ((occurrencesFrom i ts).map (·.1)).Pairwise (· < ·) := by
  induction ts generalizing i with
  | nil => simp [occurrencesFrom]
  | cons t rest ih =>
      rw [List.forall_mem_cons] at h
      rw [occurrencesFrom, List.map_append, List.map_map, List.pairwise_append]
      refine ⟨?_, ih _ h.2, ?_⟩
      · have hfirst := h.1
        rw [List.pairwise_map] at hfirst ⊢
        exact hfirst.imp fun hlt => List.cons_lt_cons_iff.2 (.inr ⟨rfl, hlt⟩)
      -- the places of later children begin with greater numbers
      · intro p hp q hq
        obtain ⟨⟨p', m⟩, -, rfl⟩ := List.mem_map.1 hp
        obtain ⟨⟨q, n⟩, ho, rfl⟩ := List.mem_map.1 hq
        obtain ⟨j, q', -, rfl, -, -⟩ := mem_occurrencesFrom.1 ho
        exact List.cons_lt_cons_iff.2 (.inl (by omega))

/-- Document order goes through the places in their order, in which a place stands in front of
those below it, and these stand in front of those to the right. -/
theorem pairwise_occurrences (t : Tree) : (t.occurrences.map (·.1)).Pairwise (· < ·) := by
  induction t using Tree.induction with
  | leaf l => simp [occurrences]
  | element e children ih =>
      rw [occurrences, List.map_cons, List.pairwise_cons]
      refine ⟨?_, pairwise_occurrencesFrom 0 ih⟩
      intro q hq
      obtain ⟨⟨q, n⟩, ho, rfl⟩ := List.mem_map.1 hq
      obtain ⟨j, q', -, rfl, -, -⟩ := mem_occurrencesFrom.1 ho
      exact List.nil_lt_cons _ _

/-! ### The text -/

/-- The text of a document is that of its own node and then that of its children. -/
theorem flatten_eq_append (t : Tree) :
    t.flatten = t.ownText ++ String.join (t.children.map flatten) := by
  apply String.toList_inj.1
  rw [flatten, walk_eq_cons, List.map_cons, String.toList_join, String.toList_append,
    String.toList_join, List.flatMap_cons, List.flatMap_map, List.flatMap_map, List.flatMap_assoc]
  congr 1
  apply List.flatMap_congr
  intro child _
  rw [flatten, String.toList_join, List.flatMap_map]

/-- The loop goes once through each place of a document, in document order, and ends after that
many turns. So the nodes of a document are its own node and then those of its children, one child
after the other, and so is its text. -/
theorem walk_exact (t : Tree) :
    Loop.Runs Walk.turn t.size { stack := [t] } ⟨t.walk, []⟩ ∧
      t.walk = t :: t.children.flatMap walk ∧
      (t.walk = t.occurrences.map (·.2) ∧ (t.occurrences.map (·.1)).Pairwise (· < ·) ∧
        ∀ p n, (p, n) ∈ t.occurrences ↔ t.at? p = some n) ∧
      t.flatten = t.ownText ++ String.join (t.children.map flatten) := by
  refine ⟨Walk.runs t, walk_eq_cons t, ⟨?_, ?_, ?_⟩, flatten_eq_append t⟩
  · rw [walk_eq_preorder, map_snd_occurrences]
  · exact pairwise_occurrences t
  · intro p n
    exact mem_occurrences

end LinkIndex.Tree

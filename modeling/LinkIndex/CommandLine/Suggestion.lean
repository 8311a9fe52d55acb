/-!
Names that resemble a name that is not known. Two names are alike by the text that
they share: their longest common piece, and what is shared before it and behind it.
-/

namespace LinkIndex.CommandLine

/-- The length of the common start of two texts. -/
def sharedStart : List Char → List Char → Nat
  | a :: as, b :: bs => if a = b then sharedStart as bs + 1 else 0
  | _, _ => 0

/-- Where a common piece of two texts lies, and how long it is. -/
structure Shared where
  left : Nat := 0
  right : Nat := 0
  size : Nat := 0

/-- The longest common piece. Of several it is the first one. -/
def longestShared (a b : List Char) : Shared :=
  let places := (List.range a.length).flatMap fun i => (List.range b.length).map fun j => (i, j)
  places.foldl (fun best (i, j) =>
    let size := sharedStart (a.drop i) (b.drop j)
    if best.size < size then ⟨i, j, size⟩ else best) {}

/-- The number of characters that two texts share in order. -/
def sharedCount : Nat → List Char → List Char → Nat
  | 0, _, _ => 0
  | fuel + 1, a, b =>
    match longestShared a b with
    | ⟨_, _, 0⟩ => 0
    | ⟨i, j, size⟩ =>
      sharedCount fuel (a.take i) (b.take j) + size +
        sharedCount fuel (a.drop (i + size)) (b.drop (j + size))

/-- A known name with its likeness to another one: twice the shared characters, of all characters
of both. -/
structure Likeness where
  name : String
  shared : Nat
  total : Nat

def likeness (word name : String) : Likeness where
  name
  shared := 2 * sharedCount (name.length + 1) name.toList word.toList
  total := name.length + word.length

/-- Whether at least three fifths are shared. -/
def Likeness.isClose (l : Likeness) : Bool :=
  3 * l.total ≤ 5 * l.shared

/-- The more alike name comes first; of two that are as much alike, the later one in the order of
names. -/
def Likeness.before (l m : Likeness) : Bool :=
  let a := l.shared * m.total
  let b := m.shared * l.total
  if a = b then decide (m.name ≤ l.name) else decide (b < a)

/-- At most three known names that resemble a word. -/
def similar (word : String) (names : List String) : List String :=
  let close := (names.map (likeness word)).filter Likeness.isClose
  ((close.mergeSort Likeness.before).take 3).map Likeness.name

end LinkIndex.CommandLine

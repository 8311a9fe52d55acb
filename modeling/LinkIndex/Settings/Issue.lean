import LinkIndex.Settings.Setting

/-!
What is wrong with values that are set from outside. Every fault has its place,
and all faults of a value are told.
-/

namespace LinkIndex

/-- A step on the way to a place: a key of a table or a position in a list. -/
inductive Step
  | key (name : String)
  | index (n : Nat)
  deriving DecidableEq, Repr

/-- Kinds of faults, by the type that was asked for. -/
inductive IssueKind
  | boolParsing
  | boolType
  | extraForbidden
  | modelType
  | dictType
  | listType
  | stringType
  deriving DecidableEq, Repr

structure Issue where
  place : List Step
  kind : IssueKind
  deriving DecidableEq, Repr

namespace Issue

/-- A fault inside of what stands under `step`. -/
def under (step : Step) (i : Issue) : Issue :=
  { i with place := step :: i.place }

end Issue

abbrev Checked (α : Type) := Except (List Issue) α

namespace Checked

variable {α β γ : Type}

/-- Checks two values, and tells the faults of both. -/
def both (f : α → β → γ) : Checked α → Checked β → Checked γ
  | .ok a, .ok b => .ok (f a b)
  | .ok _, .error j => .error j
  | .error i, .ok _ => .error i
  | .error i, .error j => .error (i ++ j)

def under (step : Step) : Checked α → Checked α
  | .ok a => .ok a
  | .error issues => .error (issues.map (Issue.under step))

def all : List (Checked α) → Checked (List α)
  | [] => .ok []
  | a :: rest => both (· :: ·) a (all rest)

def fault (kind : IssueKind) : Checked α :=
  .error [⟨[], kind⟩]

end Checked

/-- Words that stand for a truth value, in any case. -/
def boolWord? (s : String) : Option Bool :=
  let word := String.ofList (s.toList.map Char.toLower)
  if ["true", "t", "yes", "y", "on", "1"].contains word then some true
  else if ["false", "f", "no", "n", "off", "0"].contains word then some false
  else none

/-- Whether a number has a place in 64 bits. -/
def fitsWord (n : Int) : Bool :=
  -Nat.pow 2 63 ≤ n && n < Nat.pow 2 63

/-- A truth value, or a word or a number that stands for one. -/
def Setting.toBool : Setting → Checked Bool
  | .flag b => .ok b
  | .text s =>
    match boolWord? s with
    | some b => .ok b
    | none => .fault .boolParsing
  | .int n => ofInt n
  | .real x =>
    match x.toInt? with
    | some n => ofInt n
    | none => .fault .boolType
  | _ => .fault .boolType
where
  /-- Only zero and one stand for a truth value. -/
  ofInt (n : Int) : Checked Bool :=
    if n = 0 then .ok false
    else if n = 1 then .ok true
    else if fitsWord n then .fault .boolParsing
    else .fault .boolType

end LinkIndex

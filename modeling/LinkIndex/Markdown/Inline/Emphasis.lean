import LinkIndex.Markdown.Inline.Span
import LinkIndex.Text.Punctuation

/-!
Emphasis. Runs of asterisks and underscores may open or close it, by what stands
around them. A closing run is paired with the nearest run that may open it; what
stands between the two is emphasised.
-/

namespace LinkIndex.Markdown

/-- What a run of delimiters is made of. -/
inductive DelimiterKind
  | star
  | underscore
  | bracket
  | imageBracket
  deriving DecidableEq, Repr

structure Delimiter where
  kind : DelimiterKind
  start : Nat
  stop : Nat
  opens : Bool
  closes : Bool
  /-- Whether a bracket may still open a link. -/
  active : Bool := true
  deriving DecidableEq, Repr

namespace Delimiter

def length (d : Delimiter) : Nat :=
  d.stop - d.start

def isBracket (d : Delimiter) : Bool :=
  d.kind = .bracket || d.kind = .imageBracket

/-- Whether a run hugs what follows it. -/
def leftFlanking (before after : Option Char) : Bool :=
  match after with
  | none => false
  | some a =>
    !isBlank a && (!isPunctuation a || before.all fun b => isPunctuation b || isBlank b)

/-- Whether a run hugs what stands before it. -/
def rightFlanking (before after : Option Char) : Bool :=
  leftFlanking after before

/-- A run of asterisks or underscores between two characters. Underscores do not count inside of
words. -/
def ofRun (star : Bool) (start stop : Nat) (before after : Option Char) : Delimiter :=
  let left := leftFlanking before after
  let right := rightFlanking before after
  if star then ⟨.star, start, stop, left, right, true⟩
  else ⟨.underscore, start, stop, left && (!right || before.any isPunctuation),
    right && (!left || after.any isPunctuation), true⟩

/-- Whether `closer` may close what `opener` opens. Where one of them could do both, their lengths
must not make a multiple of three, unless both are one. -/
def closedBy (opener closer : Delimiter) : Bool :=
  opener.kind = closer.kind &&
    !(((opener.opens && opener.closes) || (closer.opens && closer.closes)) &&
      (opener.length + closer.length) % 3 = 0 &&
      !(opener.length % 3 = 0 && closer.length % 3 = 0))

end Delimiter

/-- The runs that are still open while emphasis is paired, the spans that were found, and the
places below which no run opens a closing one of the two kinds. -/
structure Pairing where
  delimiters : List Delimiter
  spans : List Span := []
  starBottom : Nat
  underscoreBottom : Nat
  deriving Repr

namespace Pairing

def bottom (p : Pairing) : DelimiterKind → Nat
  | .star => p.starBottom
  | _ => p.underscoreBottom

/-- The place of the nearest run below `i` that `closer` closes, but not below `least`. -/
def opener? (ds : List Delimiter) (closer : Delimiter) (least : Nat) : Nat → Option Nat
  | 0 => none
  | i + 1 =>
    if i < least then none
    else match ds[i]? with
      | some d => if d.opens && d.closedBy closer then some i else opener? ds closer least i
      | none => opener? ds closer least i

/-- Pairs the run at `j`, which closes, with the one at `i`, which opens. Runs between them are
dropped; of longer runs, two characters are taken. -/
def pair (p : Pairing) (i j : Nat) (o c : Delimiter) : Pairing × Nat :=
  let n := if 2 ≤ o.length ∧ 2 ≤ c.length then 2 else 1
  let span : Span := ⟨o.stop - n, c.start + n, o.stop, c.start, if n = 2 then .strong else .emphasis⟩
  let o : Delimiter := { o with stop := o.stop - n }
  let c : Delimiter := { c with start := c.start + n }
  let below := p.delimiters.take i ++ (if o.length = 0 then [] else [o])
  let above := (if c.length = 0 then [] else [c]) ++ p.delimiters.drop (j + 1)
  ({ p with delimiters := below ++ above, spans := span :: p.spans }, below.length)

/-- No run is closed by the one at `j`. Unless it may open something, it is dropped. -/
def giveUp (p : Pairing) (j : Nat) (d : Delimiter) : Pairing × Nat :=
  let least := if 1 < j then j else p.bottom d.kind
  let p := match d.kind with
    | .star => { p with starBottom := least }
    | _ => { p with underscoreBottom := least }
  if d.opens then (p, j + 1) else ({ p with delimiters := p.delimiters.eraseIdx j }, j)

/-- Pairs runs from the place `j` on. -/
def run : Nat → Nat → Pairing → Pairing
  | 0, _, p => p
  | fuel + 1, j, p =>
    match p.delimiters[j]? with
    | none => p
    | some d =>
      if d.closes then
        match opener? p.delimiters d (p.bottom d.kind) j with
        | some i =>
          match p.delimiters[i]? with
          | some o =>
            let (p, j) := p.pair i j o d
            run fuel j p
          | none => p
        | none =>
          let (p, j) := p.giveUp j d
          run fuel j p
      else run fuel (j + 1) p

/-- An upper bound for the number of steps: a step passes over a run, drops it or shortens it. -/
def steps (ds : List Delimiter) : Nat :=
  ds.foldr (fun d n => d.length + 2 + n) 1

end Pairing

/-- The emphasis among the runs from the place `least` on. -/
def emphasisSpans (ds : List Delimiter) (least : Nat) : List Span :=
  let p : Pairing := { delimiters := ds, starBottom := least, underscoreBottom := least }
  (Pairing.run (Pairing.steps ds) least p).spans.reverse

end LinkIndex.Markdown

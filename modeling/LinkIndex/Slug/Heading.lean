import LinkIndex.Text.Letters
import LinkIndex.Text.Lowercase
import LinkIndex.Assoc
import LinkIndex.Text.Blank

/-!
Heading anchors. The anchor of a heading is its text in lower case, without
punctuation and symbols, with a hyphen for each space. Within one document a
`Slugger` makes anchors distinct by a number behind the text.
-/

namespace LinkIndex

/-- The characters that an anchor keeps. -/
def isAnchorChar (c : Char) : Bool :=
  c = ' ' || c = '-' || c = '_' || isLetterMarkNumber c

/-- A space is written as a hyphen. -/
def hyphenate (c : Char) : Char :=
  if c = ' ' then '-' else c

def anchorChars (text : List Char) : List Char :=
  ((lowercase text).filter isAnchorChar).map hyphenate

/-- The anchor of a heading, not yet distinct from others. -/
def headingSlug (text : String) : String :=
  String.ofList (anchorChars text.toList)

/-- The anchors given out so far, each with the greatest number that was put behind it. -/
structure Slugger where
  counts : Assoc String Nat := []
  deriving Repr, DecidableEq

namespace Slugger

/-- The `k`-th choice for an anchor: the anchor itself, then with `-1`, `-2`, …. -/
def candidate (base : String) (k : Nat) : String :=
  if k = 0 then base else base ++ "-" ++ String.ofList (Text.decimal k)

/-- The first number from `k` on whose candidate is free. Every taken candidate is an anchor
that was given out, so the number of those bounds the search. -/
def firstFree (counts : Assoc String Nat) (base : String) : Nat → Nat → Nat
  | 0, k => k
  | fuel + 1, k => if counts.has (candidate base k) then firstFree counts base fuel (k + 1) else k

/-- Gives out an anchor for a heading text. -/
def slug (s : Slugger) (text : String) : String × Slugger :=
  let base := headingSlug text
  match s.counts.get? base with
  | none => (base, ⟨s.counts.put base 0⟩)
  | some n =>
    let k := firstFree s.counts base s.counts.length (n + 1)
    (candidate base k, ⟨(s.counts.put base k).put (candidate base k) 0⟩)

def reset (_ : Slugger) : Slugger := {}

end Slugger

end LinkIndex

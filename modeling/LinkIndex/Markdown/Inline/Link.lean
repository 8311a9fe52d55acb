import LinkIndex.Markdown.Inline.Emphasis

/-!
Links and emphasis of a text. A closing bracket is paired with the last opening one
that is still open. Together they are the text of a link if a target follows, or a
label that is defined, or if the text itself is such a label. No link stands inside
of another one.
-/

namespace LinkIndex.Markdown

abbrev Labels := Assoc (List Char) Target

/-- Whether the brackets in a text are balanced; `depth` of them are open. Characters behind a
backslash do not count. -/
def balanced : Nat → List Char → Bool
  | depth, [] => depth = 0
  | depth, ['\\'] => depth = 0
  | depth, '\\' :: _ :: rest => balanced depth rest
  | depth, c :: rest =>
    if c = '[' then balanced (depth + 1) rest
    else if c = ']' then depth ≠ 0 && balanced (depth - 1) rest
    else balanced depth rest

/-- The target behind the text of a link, and how many characters it takes. -/
def targetBehind? (labels : Labels) (text rest : List Char) : Option (Target × Nat) :=
  match inlineTarget? rest with
  | some (target, after) => some (target, rest.length - after.length)
  | none =>
    match label? rest with
    | some (label, after) =>
      let name := if label = [] then text else label
      (labels.get? (normalizeLabel name)).map (·, rest.length - after.length)
    | none => (labels.get? (normalizeLabel text)).map (·, 0)

/-- What was found up to a place in a text. The delimiters are in order. -/
structure LinkScan where
  delimiters : List Delimiter := []
  spans : List Span := []
  deriving Repr

def lastBracket? (ds : List Delimiter) : Option (Nat × Delimiter) :=
  (ds.zipIdx.reverse.find? fun (d, _) => d.isBracket).map fun (d, i) => (i, d)

/-- Closes the last bracket at the place `close` of a text. Tells where the link ends, if there is
one; if there is none, the bracket is dropped. -/
def closeBracket (labels : Labels) (text : List Char) (close : Nat) (s : LinkScan) :
    LinkScan × Option Nat :=
  match lastBracket? s.delimiters with
  | none => (s, none)
  | some (i, d) =>
    let dropped : LinkScan := { s with delimiters := s.delimiters.eraseIdx i }
    let inside := (text.take close).drop d.stop
    if d.active && balanced 0 inside then
      match targetBehind? labels inside (text.drop (close + 1)) with
      | none => (dropped, none)
      | some (target, length) =>
        let stop := close + 1 + length
        let isLink := d.kind = .bracket
        let mark := if isLink then Mark.link target else Mark.image target
        let span : Span := ⟨d.start, stop, d.stop, close, mark⟩
        let below := s.delimiters.take i
        let below := if isLink then below.map fun b =>
          if b.kind = .bracket then { b with active := false } else b else below
        (⟨below, s.spans ++ emphasisSpans s.delimiters (i + 1) ++ [span]⟩, some stop)
    else (dropped, none)

/-- The delimiter at the start of a text, by the character before it. -/
def delimiter? (i : Nat) (before : Option Char) (cs : List Char) : Option Delimiter :=
  match cs with
  | '!' :: '[' :: _ => some ⟨.imageBracket, i, i + 2, false, false, true⟩
  | '[' :: _ => some ⟨.bracket, i, i + 1, false, false, true⟩
  | c :: _ =>
    if c = '*' ∨ c = '_' then
      let run := cs.takeWhile (· = c)
      let after := (cs.drop run.length).head?
      some (.ofRun (c = '*') i (i + run.length) before after)
    else none
  | [] => none

/-- Scans a text from the place `i` on, of which `skip` characters are passed over. `rest` is the
text from there on. -/
def scanLinks (labels : Labels) (text : List Char) :
    Nat → Nat → Option Char → List Char → LinkScan → LinkScan
  | _, _, _, [], s => s
  | i, skip + 1, _, c :: rest, s => scanLinks labels text (i + 1) skip (some c) rest s
  | i, 0, before, c :: rest, s =>
    let pass (n : Nat) (s : LinkScan) : LinkScan :=
      scanLinks labels text (i + 1) (n - 1) (some c) rest s
    if c = '\\' then pass 2 s
    else match code? before (c :: rest) with
      | some (n, _) => pass n s
      | none =>
        if c = ']' then
          let (s, stop) := closeBracket labels text i s
          pass ((stop.getD (i + 1)) - i) s
        else match delimiter? i before (c :: rest) with
          | some d => pass d.length { s with delimiters := s.delimiters ++ [d] }
          | none => pass 1 s

/-- The links and the emphasis of a text. -/
def linkSpans (labels : Labels) (text : List Char) : List Span :=
  let s := scanLinks labels text 0 0 none text {}
  s.spans ++ emphasisSpans s.delimiters 0

end LinkIndex.Markdown

import LinkIndex.Markdown.Block

/-!
The blocks of a document. Lines are taken as long as they belong to the containers
around them; a line of a paragraph may also leave them out.
-/

namespace LinkIndex.Markdown

/-- The next line inside of the containers. -/
def Place.inside? (p : Place) (containers : List Container) : Option (List Char) :=
  match p.lines with
  | line :: _ => Markdown.inside? containers p.number line
  | [] => none

/-- The next line inside of the innermost containers that it belongs to. It always belongs to the
document itself. -/
def Place.outside (p : Place) (containers : List Container) : List Char :=
  match p.inside? containers with
  | some line => line
  | none =>
    match containers with
    | [] => []
    | c :: cs => p.outside (c :: cs).dropLast
  termination_by containers.length
  decreasing_by simp

/-- Reads the lines of a paragraph, the first ones of which are `done` in reverse. -/
def readParagraph (containers : List Container) : Nat → List (List Char) → Place → Block × Place
  | 0, done, p => (.paragraph (paragraphBody done.reverse), p)
  | fuel + 1, done, p =>
    let finished : Block × Place := (.paragraph (paragraphBody done.reverse), p)
    if p.lines = [] then finished
    else match p.inside? containers with
      | some line =>
        if endsParagraph false line then finished
        else match underline? line with
          | some level =>
            let body := Text.trim (done.reverse.flatMap (Text.trimStartBy isBlank))
            (.heading level body, p.skip 1)
          | none => readParagraph containers fuel (line :: done) (p.skip 1)
      | none =>
        let line := p.outside containers.dropLast
        if endsParagraph true line then finished
        else readParagraph containers fuel (line :: done) (p.skip 1)

def readFenced (containers : List Container) (fence : Fence) :
    Nat → Place → List Char × Place
  | 0, p => ([], p)
  | fuel + 1, p =>
    match p.inside? containers with
    | none => ([], p)
    | some line =>
      if fence.isClosedBy line then ([], p.skip 1)
      else
        let (text, after) := readFenced containers fence fuel (p.skip 1)
        (fence.content line ++ text, after)

def readMarkup (containers : List Container) (stop : MarkupEnd) : Nat → Place → List Char × Place
  | 0, p => ([], p)
  | fuel + 1, p =>
    match p.inside? containers with
    | none => ([], p)
    | some line =>
      if stop.holds line then (line, p.skip 1)
      else
        let (text, after) := readMarkup containers stop fuel (p.skip 1)
        (line ++ text, after)

/-- The next line as a line of indented code. -/
def Place.code? (p : Place) (containers : List Container) : Option (List Char) :=
  match p.lines with
  | line :: _ => codeInside? containers p.number line
  | [] => none

/-- Reads the lines of indented code, with the blank lines among them. -/
def readIndented (containers : List Container) : Nat → Place → List Char × Place
  | 0, p => ([], p)
  | fuel + 1, p =>
    let next (line : List Char) : List Char × Place :=
      let (text, after) := readIndented containers fuel (p.skip 1)
      (line ++ text, after)
    match p.code? containers, p.inside? containers with
    | some line, _ => next line
    | none, some line => if isBlankLine line then next ['\n'] else ([], p)
    | none, none => ([], p)

def readDefinition? (line : List Char) (p : Place) : Option (Definition × Place) :=
  match dropIndent? line with
  | some ('[' :: rest) =>
    match definition? ('[' :: rest ++ (p.lines.drop 1).flatten) with
    | some (d, after) => some (d, p.skip (p.lines.length - (splitLines after).length))
    | none => none
  | _ => none

def skipBlankLines (containers : List Container) : Nat → Place → Place
  | 0, p => p
  | fuel + 1, p =>
    match p.inside? containers with
    | some line =>
      if isBlankLine line ∧ p.lines ≠ [] then skipBlankLines containers fuel (p.skip 1) else p
    | none => p

/-- A block that is no container, where one begins at the next line. -/
def readLeaf? (containers : List Container) (line : List Char) (p : Place) :
    Option (Block × Place) :=
  let fuel := p.lines.length
  match markup? line with
  | some stop =>
    let (text, p) := readMarkup containers stop fuel p
    some (.markup text, p)
  | none =>
    match readDefinition? line p with
    | some (d, p) => some (.definition d, p)
    | none =>
      if (p.code? containers).isSome then
        let (text, p) := readIndented containers fuel p
        some (.code text, p)
      else if lineBody line = [] then none
      else some (readParagraph containers fuel [line] (p.skip 1))

mutual

/-- Reads blocks as long as lines belong to the containers. Every step takes one unit of fuel. -/
def readBlocks (containers : List Container) : Nat → Place → List Block × Place
  | 0, p => ([], p)
  | fuel + 1, p =>
    let next (b : Block) (p : Place) : List Block × Place :=
      let (blocks, p) := readBlocks containers fuel p
      (b :: blocks, p)
    match p.inside? containers with
    | none => ([], p)
    | some line =>
      if isThematicBreak line then next .thematicBreak (p.skip 1)
      else match fence? line, heading? line, bullet? line with
        | some fence, _, _ =>
          let (text, p) := readFenced containers fence p.lines.length (p.skip 1)
          next (.code text) p
        | none, some (level, body), _ => next (.heading level body) (p.skip 1)
        | none, none, some bullet =>
          let (items, p) := readItems containers bullet fuel p
          next (.list items) p
        | none, none, none =>
          if isQuote line then
            let (blocks, p) := readBlocks (containers ++ [.quote]) fuel p
            next (.quote blocks) p
          else if isBlankLine line then readBlocks containers fuel (p.skip 1)
          else match readLeaf? containers line p with
            | some (b, p) => next b p
            | none => ([], p)

def readItems (containers : List Container) (first : Bullet) :
    Nat → Place → List (List Block) × Place
  | 0, p => ([], p)
  | fuel + 1, p =>
    let p := skipBlankLines containers p.lines.length p
    match p.inside? containers with
    | none => ([], p)
    | some line =>
      match bullet? line with
      | some b =>
        if first.fits b && !isThematicBreak line then
          let (item, p) := readItem containers b fuel p
          let (items, p) := readItems containers first fuel p
          (item :: items, p)
        else ([], p)
      | none => ([], p)

/-- Reads one item. An item that begins with a blank line ends at the next one. -/
def readItem (containers : List Container) (b : Bullet) : Nat → Place → List Block × Place
  | 0, p => ([], p)
  | fuel + 1, p =>
    let inner := containers ++ [.item p.number b.text b.indent b.gap]
    match p.inside? inner with
    | none => ([], p.skip 1)
    | some line =>
      if isBlankLine line then
        let p := p.skip 1
        match p.inside? inner with
        | none => ([], p)
        | some line => if isBlankLine line then ([], p) else readBlocks inner fuel p
      else readBlocks inner fuel p

end

def blocks (text : List Char) : List Block :=
  let p : Place := ⟨0, splitLines (Text.unifyLineEndings text)⟩
  (readBlocks [] (4 * text.length + 4) p).1

end LinkIndex.Markdown

import LinkIndex.Text.Utf8
import LinkIndex.Yaml.Cursor
import LinkIndex.Yaml.Error
import LinkIndex.Yaml.Token

/-!
The tokens that are names: anchors and aliases, tags, and the directives in front
of a document.
-/

namespace LinkIndex.Yaml

def isAnchorNameChar (c : Char) : Bool :=
  !",[]\x7b\x7d".toList.contains c &&
    (('\x21' ≤ c && c ≤ '\x7e') || ('\xa0' ≤ c && c.toNat ≤ 0xD7FF) ||
      (0xE000 ≤ c.toNat && c.toNat ≤ 0xFFFD && c ≠ '\ufeff') || 0x10000 ≤ c.toNat)

def endsAnchorName : Option Char → Bool
  | none => true
  | some c => c = ' ' || c = '\t' || isBreak c || "?:,[]\x7b\x7d%@`".toList.contains c

def readAnchorName (c : Cursor) : Except Error (String × Cursor) :=
  let (name, after) := c.step.takeWhile isAnchorNameChar
  if name = [] || !endsAnchorName after.peek then .error .malformed
  else .ok (String.ofList name, after)

def isHandleChar (c : Char) : Bool :=
  c.isAlphanum || c = '-' || c = '_'

/-- A handle: an exclamation mark, or a word between two. -/
def readHandle (c : Cursor) : Except Error (String × Cursor) :=
  if c.peek ≠ some '!' then .error .malformed
  else if c.peekAt 1 = some ' ' then .ok ("!", c.step)
  else
    let name := c.step.rest.takeWhile isHandleChar
    let length := name.length + 1
    if c.peekAt length = some '!' then
      .ok (String.ofList (c.rest.take (length + 1)), c.skip (length + 1))
    else .error .malformed

/-- The characters of a tag that stand for themselves. -/
def isTagChar (version : Version) (c : Char) : Bool :=
  c.isAlphanum || "-;/?:@&=+$,_.!~*'()[]".toList.contains c ||
    (c = '#' && version ≠ .v1_1)

/-- The bytes of a run of escapes, and how many characters they take. -/
def escapedBytes : List Char → Except Error (List UInt8 × Nat)
  | '%' :: a :: b :: rest =>
    match Json.hexValue? a, Json.hexValue? b with
    | some a, some b =>
      match escapedBytes rest with
      | .ok (bytes, n) => .ok (UInt8.ofNat (a * 16 + b) :: bytes, n + 3)
      | .error e => .error e
    | _, _ => .error .malformed
  | '%' :: _ => .error .malformed
  | _ => .ok ([], 0)

/-- The characters of a tag, with its escapes decoded. -/
def tagText (version : Version) : Nat → Cursor → Except Error (List Char × Cursor)
  | 0, c => .ok ([], c)
  | fuel + 1, c =>
    let (cs, c) := c.takeWhile (isTagChar version)
    if c.peek = some '%' then
      match escapedBytes c.rest with
      | .error e => .error e
      | .ok (bytes, n) =>
        match Utf8.decode bytes with
        | .error _ => .error .malformed
        | .ok image =>
          match tagText version fuel (c.skip n) with
          | .ok (more, c) => .ok (cs ++ image ++ more, c)
          | .error e => .error e
    else .ok (cs, c)

def readTagText (version : Version) (c : Cursor) : Except Error (String × Cursor) :=
  match tagText version (c.rest.length + 1) c with
  | .error e => .error e
  | .ok ([], _) => .error .malformed
  | .ok (cs, c) => .ok (String.ofList cs, c)

/-- A tag: in full between angles, a mark alone, or a handle and the rest. -/
def readTag (version : Version) (c : Cursor) : Except Error (WrittenTag × Cursor) := do
  let next := c.peekAt 1
  let (tag, c) ←
    if next = some '<' then do
      let (suffix, c) ← readTagText version (c.skip 2)
      if c.peek = some '>' then pure (WrittenTag.mk none suffix, c.step) else throw .malformed
    else if endsWord next then pure (⟨none, "!"⟩, c.step)
    else do
      let word := c.step.rest.takeWhile fun ch => !endsHeader (some ch)
      let (handle, c) ← if '!' ∈ word then readHandle c else pure ("!", c.step)
      let (suffix, c) ← readTagText version c
      pure (⟨some handle, suffix⟩, c)
  if endsHeader c.peek then pure (tag, c) else throw .malformed

/-- The rest of the line of a directive, which may hold a comment. -/
def endDirective (c : Cursor) : Except Error Cursor :=
  let c := c.skipWhile (· = ' ')
  let c := if c.peek = some '#' then c.skipWhile fun ch => !endsLine (some ch) else c
  if !endsLine c.peek then .error .malformed
  else .ok (match c.lineBreak? with
    | some (_, c) => c
    | none => c)

def readVersionNumber (c : Cursor) : Except Error (Nat × Cursor) :=
  match c.takeWhile Char.isDigit with
  | ([], _) => .error .malformed
  | (digits, c) =>
    match Whole.read 10 digits with
    | .ok n => .ok (n.toNat, c)
    | .error e => .error (.whole e)

def readVersion (c : Cursor) : Except Error (Token × Cursor) := do
  let (major, c) ← readVersionNumber (c.skipWhile (· = ' '))
  if c.peek ≠ some '.' then throw .malformed
  let (minor, c) ← readVersionNumber c.step
  if endsHeader c.peek then pure (.version major minor, c) else throw .malformed

def readTagHandle (version : Version) (c : Cursor) : Except Error (Token × Cursor) := do
  let (handle, c) ← readHandle (c.skipWhile (· = ' '))
  if c.peek ≠ some ' ' then throw .malformed
  let (start, c) ← readTagText version (c.skipWhile (· = ' '))
  if endsHeader c.peek then pure (.tagHandle handle start, c) else throw .malformed

def isDirectiveNameChar (c : Char) : Bool :=
  isHandleChar c || c = ':' || c = '.'

/-- A directive. One with a name that means nothing is passed over. -/
def readDirective (version : Version) (c : Cursor) : Except Error (Token × Cursor) := do
  let (name, c) := c.step.takeWhile isDirectiveNameChar
  if name = [] || !endsHeader c.peek then throw .malformed
  let (token, c) ←
    if name = "YAML".toList then readVersion c
    else if name = "TAG".toList then readTagHandle version c
    else pure (.otherDirective, c.skipWhile fun ch => !endsLine (some ch))
  pure (token, ← endDirective c)

end LinkIndex.Yaml

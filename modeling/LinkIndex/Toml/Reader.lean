import LinkIndex.Toml.Scalar

/-!
TOML documents. A document is a sequence of statements: pairs, and headers that say
to which table the pairs below them belong. Tables are opened once; what is written
inline is complete as it stands.
-/

namespace LinkIndex.Toml

abbrev Table := Assoc String Setting

/-- Changes the table behind a key. Tables on the way are made where there are none; with
`throughLists`, the last table of a list stands for the list. -/
def updateNest (throughLists : Bool) (f : Table → Option Table) : Key → Table → Option Table
  | [], t => f t
  | k :: rest, t =>
    match (t.get? k).getD (.table []) with
    | .table inner => (updateNest throughLists f rest inner).map fun i => t.put k (.table i)
    | .list items =>
      match items.getLast?, throughLists with
      | some (.table inner), true =>
        (updateNest throughLists f rest inner).map fun i =>
          t.put k (.list (items.dropLast ++ [.table i]))
      | _, _ => none
    | _ => none

def isKeyChar (c : Char) : Bool :=
  c.isAlphanum || c = '-' || c = '_'

def keyPart : List Char → Read String
  | '\'' :: rest => lineString '\'' rest
  | '"' :: rest => lineString '"' rest
  | c :: rest =>
    if isKeyChar c then
      .ok (String.ofList (c :: rest.takeWhile isKeyChar), rest.dropWhile isKeyChar)
    else refuse .keyStart (c :: rest)
  | [] => refuse .keyStart []

/-- A key: parts between points. -/
def key : Nat → List Char → Read Key
  | 0, cs => refuse .keyStart cs
  | fuel + 1, cs =>
    match keyPart cs with
    | .error e => .error e
    | .ok (part, rest) =>
      match skipSpace rest with
      | '.' :: rest =>
        match key fuel (skipSpace rest) with
        | .ok (parts, rest) => .ok (part :: parts, rest)
        | .error e => .error e
      | rest => .ok ([part], rest)

def readKey (cs : List Char) : Read Key :=
  key (cs.length + 1) cs

def skipComment (cs : List Char) : Except Stop (List Char) :=
  match cs with
  | '#' :: rest =>
    let text := rest.takeWhile (· ≠ '\n')
    match text.dropWhile (!isControl ·) with
    | c :: others =>
      .error (.fault (.invalidCharacter c) (others.length + 1 + (rest.length - text.length)))
    | [] => .ok (rest.drop text.length)
  | cs => .ok cs

/-- What follows blanks, line feeds and comments. -/
def skipFiller : Nat → List Char → Except Stop (List Char)
  | 0, cs => .ok cs
  | fuel + 1, cs =>
    match skipComment (cs.dropWhile fun c => isSpace c || c = '\n') with
    | .error e => .error e
    | .ok rest => if rest.length = cs.length then .ok rest else skipFiller fuel rest

def filler (cs : List Char) : Except Stop (List Char) :=
  skipFiller (cs.length + 1) cs

def Key.isPrefix (k : Key) (l : Key) : Bool :=
  l.take k.length = k

def isCompound : Setting → Bool
  | .list _ => true
  | .table _ => true
  | _ => false

/-- Puts a value into a table under construction, if nothing is there. -/
def putNew (part : String) (v : Setting) (t : Table) : Option Table :=
  if t.has part then none else some (t.put part v)

mutual

/-- A value. Every step down takes one unit of fuel. -/
def value : Nat → List Char → Read Setting
  | 0, cs => refuse .value cs
  | fuel + 1, cs =>
    let text (r : Read String) : Read Setting :=
      match r with
      | .ok (s, rest) => .ok (.text s, rest)
      | .error e => .error e
    match cs with
    | '"' :: '"' :: '"' :: rest => text (linesString '"' rest)
    | '"' :: rest => text (lineString '"' rest)
    | '\'' :: '\'' :: '\'' :: rest => text (linesString '\'' rest)
    | '\'' :: rest => text (lineString '\'' rest)
    | 't' :: 'r' :: 'u' :: 'e' :: rest => .ok (.flag true, rest)
    | 'f' :: 'a' :: 'l' :: 's' :: 'e' :: rest => .ok (.flag false, rest)
    | '[' :: rest =>
      match filler rest with
      | .error e => .error e
      | .ok (']' :: rest) => .ok (.list [], rest)
      | .ok rest =>
        match arrayItems fuel rest with
        | .ok (items, rest) => .ok (.list items, rest)
        | .error e => .error e
    | '\x7b' :: rest =>
      match skipSpace rest with
      | '\x7d' :: rest => .ok (.table [], rest)
      | rest => inlinePairs fuel [] [] rest
    | cs => moment cs

def arrayItems : Nat → List Char → Except Stop (List Setting × List Char)
  | 0, cs => refuse .unclosedArray cs
  | fuel + 1, cs => do
    let (v, rest) ← value fuel cs
    match ← filler rest with
    | ']' :: rest => return ([v], rest)
    | ',' :: rest =>
      match ← filler rest with
      | ']' :: rest => return ([v], rest)
      | rest =>
        let (items, rest) ← arrayItems fuel rest
        return (v :: items, rest)
    | rest => refuse .unclosedArray rest

/-- A pair: a key, an equals sign and a value. -/
def pair : Nat → List Char → Except Stop ((Key × Setting) × List Char)
  | 0, cs => refuse .keyStart cs
  | fuel + 1, cs => do
    let (k, rest) ← readKey cs
    match rest with
    | '=' :: rest =>
      let (v, rest) ← value fuel (skipSpace rest)
      return ((k, v), rest)
    | rest => refuse .noEquals rest

/-- The pairs of an inline table from the next one on. Arrays and tables in it are complete. -/
def inlinePairs : Nat → List Key → Table → List Char → Except Stop (Setting × List Char)
  | 0, _, _, cs => refuse .unclosedTable cs
  | fuel + 1, complete, t, cs => do
    let ((k, v), rest) ← pair fuel cs
    if complete.any (·.isPrefix k) then refuse (.immutable k) rest
    let stem := k.getLast?.getD ""
    match updateNest false some k.dropLast t with
    | none => refuse .overwritten rest
    | some _ =>
      match updateNest false (putNew stem v) k.dropLast t with
      | none => refuse (.repeatedKey stem) rest
      | some t =>
        let complete := if isCompound v then k :: complete else complete
        match skipSpace rest with
        | '\x7d' :: rest => return (.table t, rest)
        | ',' :: rest => inlinePairs fuel complete t (skipSpace rest)
        | rest => refuse .unclosedTable rest

end

structure Progress where
  table : Table := []
  /-- The tables that were opened by a header, and may not be opened again. -/
  opened : List Key := []
  /-- Arrays and inline tables, which are complete. -/
  complete : List Key := []
  /-- The tables that keys with several parts have made below the header at hand. -/
  pending : List Key := []
  header : Key := []

def isComplete (p : Progress) (k : Key) : Bool :=
  k ≠ [] && p.complete.any (·.isPrefix k)

/-- A header ends the part of the document in which keys may still extend the tables they make. -/
def startHeader (p : Progress) : Progress :=
  { p with opened := p.pending ++ p.opened, pending := [] }

def openTable (p : Progress) (cs : List Char) : Except Stop (Progress × List Char) := do
  let p := startHeader p
  let (k, rest) ← readKey (skipSpace cs)
  if p.opened.contains k || isComplete p k then refuse (.declaredTwice k) rest
  match updateNest true some k p.table with
  | none => refuse .overwritten rest
  | some table =>
    match rest with
    | ']' :: rest => return ({ p with table, opened := k :: p.opened, header := k }, rest)
    | rest => refuse .tableEnd rest

def appendTable (stem : String) (t : Table) : Option Table :=
  match t.get? stem with
  | none => some (t.put stem (.list [.table []]))
  | some (.list items) => some (t.put stem (.list (items ++ [.table []])))
  | some _ => none

/-- Opens the next table of a list, behind its brackets. What was known of the tables in the one
before it is forgotten. -/
def openListTable (p : Progress) (cs : List Char) : Except Stop (Progress × List Char) := do
  let p := startHeader p
  let (k, rest) ← readKey (skipSpace cs)
  if isComplete p k then refuse (.immutable k) rest
  let opened := k :: p.opened.filter (!k.isPrefix ·)
  let complete := p.complete.filter (!k.isPrefix ·)
  match updateNest true (appendTable (k.getLast?.getD "")) k.dropLast p.table with
  | none => refuse .overwritten rest
  | some table =>
    match rest with
    | ']' :: ']' :: rest => return ({ p with table, opened, complete, header := k }, rest)
    | rest => refuse .arrayTableEnd rest

/-- The beginnings of a key, shortest first. -/
def Key.beginnings (k : Key) : List Key :=
  (List.range (k.length - 1)).map fun i => k.take (i + 1)

/-- Takes up a pair below the header at hand. -/
def addPair (p : Progress) (cs : List Char) : Except Stop (Progress × List Char) := do
  let ((k, v), rest) ← pair (2 * cs.length + 2) cs
  let made := k.beginnings.map (p.header ++ ·)
  match made.find? p.opened.contains with
  | some clash => refuse (.redefined clash) rest
  | none =>
    let parent := p.header ++ k.dropLast
    if isComplete p parent then refuse (.immutable parent) rest
    match updateNest true (putNew (k.getLast?.getD "") v) parent p.table with
    | none => refuse .overwritten rest
    | some table =>
      let complete := if isCompound v then (p.header ++ k) :: p.complete else p.complete
      return ({ p with table, complete, pending := made ++ p.pending }, rest)

/-- A statement without the comment behind it. -/
def statement (p : Progress) (cs : List Char) : Read Progress :=
  match cs with
  | '[' :: '[' :: rest => openListTable p rest
  | '[' :: rest => openTable p rest
  | '#' :: _ => .ok (p, cs)
  | c :: _ => if isKeyChar c || c = '"' || c = '\'' then addPair p cs else refuse .statement cs
  | [] => .ok (p, [])

/-- Reads statements up to the end of the text. -/
def statements : Nat → Progress → List Char → Except Stop Table
  | 0, p, _ => .ok p.table
  | fuel + 1, p, cs =>
    match skipSpace cs with
    | [] => .ok p.table
    | '\n' :: rest => statements fuel p rest
    | cs =>
      match statement p cs with
      | .error e => .error e
      | .ok (p, rest) =>
        match skipComment (skipSpace rest) with
        | .error e => .error e
        | .ok [] => .ok p.table
        | .ok ('\n' :: rest) => statements fuel p rest
        | .ok rest => refuse .statementEnd rest

def parse (text : List Char) : Except Error Table :=
  let text := Text.joinCrLf text
  match statements (text.length + 1) {} text with
  | .ok table => .ok table
  | .error stop => .error (.ofStop text stop)

end LinkIndex.Toml

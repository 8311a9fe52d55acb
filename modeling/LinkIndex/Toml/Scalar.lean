import LinkIndex.Settings.Setting
import LinkIndex.Toml.Error
import LinkIndex.Yaml.Time

/-!
The values of TOML that stand on their own: strings in four forms, dates, times and
numbers. A reader takes the text from its place on and gives the rest.
-/

namespace LinkIndex.Toml

/-- Reading from the front of a text. -/
abbrev Read (α : Type) := Except Stop (α × List Char)

def refuse {α : Type} (fault : Fault) (cs : List Char) : Except Stop α :=
  .error (.fault fault cs.length)

def isSpace (c : Char) : Bool :=
  c = ' ' || c = '\t'

def skipSpace (cs : List Char) : List Char :=
  cs.dropWhile isSpace

/-- Control characters, which no string and no comment may hold. -/
def isControl (c : Char) : Bool :=
  (c.toNat < 0x20 || c.toNat = 0x7F) && c ≠ '\t'

/-- Control characters, for strings over several lines. -/
def isControlInLines (c : Char) : Bool :=
  isControl c && c ≠ '\n'

def upToMark? (mark : List Char) : List Char → Option (List Char × List Char)
  | [] => none
  | c :: rest =>
    match Text.dropPrefix? mark (c :: rest) with
    | some after => some ([], after)
    | none => (upToMark? mark rest).map fun (text, after) => (c :: text, after)

/-- The text up to a mark that has to come. Characters that satisfy `bad` are refused. -/
def literal (mark : String) (bad : Char → Bool) (cs : List Char) : Read (List Char) :=
  match upToMark? mark.toList cs with
  | none => refuse (.missing mark) []
  | some (text, after) =>
    match text.dropWhile (!bad ·) with
    | c :: rest =>
      .error (.fault (.invalidCharacter c) (rest.length + 1 + mark.length + after.length))
    | [] => .ok (text, after)

def simpleEscape? (c : Char) : Option Char :=
  [('b', '\x08'), ('t', '\t'), ('n', '\n'), ('f', '\x0c'), ('r', '\r'), ('"', '"'),
   ('\\', '\\')].lookup c

def codePoint (width : Nat) (cs : List Char) : Read (List Char) :=
  let digits := cs.take width
  let value := digits.foldl
    (fun n? c => n?.bind fun n => (Json.hexValue? c).map (n * 16 + ·)) (some 0)
  match value with
  | none => refuse .hexValue cs
  | some n =>
    let rest := cs.drop width
    if digits.length < width then refuse .hexValue cs
    else if n.isValidChar then .ok ([Char.ofNat n], rest)
    else refuse .notACharacter rest

/-- An escape behind its backslash. Over several lines, a backslash at the end of a line passes
over all blank up to the next text. -/
def escape (inLines : Bool) (cs : List Char) : Read (List Char) :=
  let skipLines (cs : List Char) := cs.dropWhile fun c => isSpace c || c = '\n'
  match cs with
  | [] => refuse .escape []
  | c :: rest =>
    if inLines && c = '\n' then .ok ([], skipLines rest)
    else if inLines && isSpace c then
      match skipSpace rest with
      | [] => .ok ([], [])
      | '\n' :: rest => .ok ([], skipLines rest)
      | rest => refuse .escape rest
    else if c = 'u' then codePoint 4 rest
    else if c = 'U' then codePoint 8 rest
    else match simpleEscape? c with
      | some image => .ok ([image], rest)
      | none => refuse .escape rest

/-- A string behind its opening mark, up to its end. -/
def basic (inLines : Bool) : Nat → List Char → Read (List Char)
  | 0, cs => refuse .unterminated cs
  | fuel + 1, cs =>
    let more (piece rest : List Char) : Read (List Char) :=
      match basic inLines fuel rest with
      | .ok (text, after) => .ok (piece ++ text, after)
      | .error e => .error e
    match cs with
    | [] => refuse .unterminated []
    | '"' :: rest =>
      if inLines then
        match rest with
        | '"' :: '"' :: after => .ok ([], after)
        | _ => more ['"'] rest
      else .ok ([], rest)
    | '\\' :: rest =>
      match escape inLines rest with
      | .ok (piece, rest) => more piece rest
      | .error e => .error e
    | c :: rest =>
      if (if inLines then isControlInLines c else isControl c) then
        refuse (.illegalCharacter c) (c :: rest)
      else more [c] rest

/-- Up to two marks behind the end of a string over several lines belong to it. -/
def closingMarks (mark : Char) (text cs : List Char) : List Char × List Char :=
  let extra := (cs.takeWhile (· = mark)).take 2
  (text ++ extra, cs.drop extra.length)

/-- A line feed directly behind the opening mark does not count. -/
def skipFirstLine : List Char → List Char
  | '\n' :: rest => rest
  | cs => cs

def stringOf (r : Read (List Char)) : Read String :=
  match r with
  | .ok (text, rest) => .ok (String.ofList text, rest)
  | .error e => .error e

/-- A string over several lines, behind its opening marks. -/
def linesString (mark : Char) (cs : List Char) : Read String :=
  let cs := skipFirstLine cs
  let body := if mark = '"' then basic true (cs.length + 1) cs
    else literal "'''" isControlInLines cs
  match body with
  | .ok (text, rest) =>
    let (text, rest) := closingMarks mark text rest
    .ok (String.ofList text, rest)
  | .error e => .error e

def lineString (mark : Char) (cs : List Char) : Read String :=
  stringOf (if mark = '"' then basic false (cs.length + 1) cs else literal "'" isControl cs)

/-- Exactly two digits, not above a limit. -/
def twoDigits? (limit : Nat) : List Char → Option (Nat × List Char)
  | a :: b :: rest =>
    if a.isDigit && b.isDigit && Json.digitsValue [a, b] ≤ limit then
      some (Json.digitsValue [a, b], rest)
    else none
  | _ => none

def expectChar? (c : Char) : List Char → Option (List Char)
  | d :: rest => if d = c then some rest else none
  | [] => none

/-- A time of day; what follows it. -/
def afterTime? (cs : List Char) : Option (List Char) := do
  let (_, cs) ← twoDigits? 23 cs
  let (_, cs) ← twoDigits? 59 (← expectChar? ':' cs)
  let (_, cs) ← twoDigits? 59 (← expectChar? ':' cs)
  match cs with
  | '.' :: d :: rest => if d.isDigit then some (rest.dropWhile Char.isDigit) else some cs
  | _ => some cs

/-- An offset from universal time; what follows it. -/
def afterOffset? : List Char → Option (List Char)
  | 'Z' :: rest => some rest
  | 'z' :: rest => some rest
  | s :: rest =>
    if s = '+' ∨ s = '-' then do
      let (_, cs) ← twoDigits? 23 rest
      let (_, cs) ← twoDigits? 59 (← expectChar? ':' cs)
      some cs
    else none
  | [] => none

/-- A time of day behind a date, with or without an offset; what follows it. -/
def afterDateTime (cs : List Char) : List Char :=
  match cs with
  | sep :: rest =>
    if sep = 'T' ∨ sep = 't' ∨ sep = ' ' then
      match afterTime? rest with
      | some cs => (afterOffset? cs).getD cs
      | none => cs
    else cs
  | [] => []

/-- A date, and what follows it with its time. -/
def date? (cs : List Char) : Option ((Nat × Nat × Nat) × List Char) := do
  let (century, rest) ← twoDigits? 99 cs
  let (years, rest) ← twoDigits? 99 rest
  let (month, rest) ← twoDigits? 12 (← expectChar? '-' rest)
  let (day, rest) ← twoDigits? 31 (← expectChar? '-' rest)
  if month = 0 ∨ day = 0 then none else some ((century * 100 + years, month, day), afterDateTime rest)

/-- A run of digits, with single underscores between them. -/
def digitRun (p : Char → Bool) : List Char → List Char × List Char
  | '_' :: c :: rest =>
    if p c then
      let (digits, after) := digitRun p rest
      (c :: digits, after)
    else ([], '_' :: c :: rest)
  | c :: rest =>
    if p c then
      let (digits, after) := digitRun p rest
      (c :: digits, after)
    else ([], c :: rest)
  | [] => ([], [])

/-- A run of at least one digit, which comes first. -/
def digits? (p : Char → Bool) : List Char → Option (List Char × List Char)
  | c :: rest =>
    if p c then
      let (digits, after) := digitRun p rest
      some (c :: digits, after)
    else none
  | [] => none

/-- A whole number in another base, behind its zero. -/
def based? : List Char → Option (Nat × List Char)
  | c :: rest =>
    let read (base : Nat) : Option (Nat × List Char) :=
      let isBaseDigit := fun d => (Json.hexValue? d).any (· < base)
      (digits? isBaseDigit rest).map fun (digits, after) =>
        (digits.foldl (fun n d => n * base + (Json.hexValue? d).getD 0) 0, after)
    if c = 'x' then read 16 else if c = 'b' then read 2 else if c = 'o' then read 8 else none
  | [] => none

/-- The digits in front of the point: one zero, or digits that start with another one. -/
def wholePart? : List Char → Option (List Char × List Char)
  | '0' :: rest => some (['0'], rest)
  | cs => digits? Char.isDigit cs

def fractionPart (cs : List Char) : List Char × List Char :=
  match cs with
  | '.' :: rest => (digits? Char.isDigit rest).getD ([], cs)
  | _ => ([], cs)

def exponentPart? : List Char → Option (Int × List Char)
  | e :: rest =>
    if e = 'e' ∨ e = 'E' then
      let (negative, rest) := match rest with
        | '-' :: r => (true, r)
        | '+' :: r => (false, r)
        | r => (false, r)
      (digits? Char.isDigit rest).map fun (digits, after) =>
        let n : Int := Json.digitsValue digits
        (if negative then -n else n, after)
    else none
  | [] => none

/-- A number in base ten behind its sign. -/
def decimal? (negative : Bool) (cs : List Char) : Option (Read Setting) := do
  let (whole, rest) ← wholePart? cs
  let (fraction, rest) := fractionPart rest
  match fraction, exponentPart? rest with
  | [], none =>
    if Json.maxDigits < whole.length then some (.error (.tooManyDigits whole.length))
    else
      let n : Int := Json.digitsValue whole
      some (.ok (.int (if negative then -n else n), rest))
  | fraction, exponent? =>
    let (exponent, rest) := exponent?.getD (0, rest)
    some (.ok (.real (.ofDecimal negative (Json.digitsValue (whole ++ fraction))
      (exponent - fraction.length)), rest))

/-- A number that is a word, behind its sign. -/
def special? (negative : Bool) : List Char → Option (Setting × List Char)
  | 'i' :: 'n' :: 'f' :: rest => some (.real (.infinite negative), rest)
  | 'n' :: 'a' :: 'n' :: rest => some (.real .nan, rest)
  | _ => none

def number (cs : List Char) : Read Setting :=
  let (negative, body) := match cs with
    | '-' :: rest => (true, rest)
    | '+' :: rest => (false, rest)
    | _ => (false, cs)
  let inBase := match cs with
    | '0' :: rest => based? rest
    | _ => none
  match inBase with
  | some (n, rest) => .ok (.int n, rest)
  | none =>
    match decimal? negative body with
    | some r => r
    | none =>
      match special? negative body with
      | some r => .ok r
      | none => refuse .value cs

/-- A date, a time or a number at the start of a text. -/
def moment (cs : List Char) : Read Setting :=
  match date? cs with
  | some ((year, month, day), rest) =>
    match Yaml.Date.of? year month day with
    | .ok _ => .ok (.other, rest)
    | .error _ => refuse .date cs
  | none =>
    match afterTime? cs with
    | some rest => .ok (.other, rest)
    | none => number cs

end LinkIndex.Toml

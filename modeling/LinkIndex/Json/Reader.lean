import LinkIndex.Json.Basic
import LinkIndex.Text.Blank

/-!
Reading JSON text. A refusal names the first place at which the text stops being
JSON. Besides the standard, `NaN`, `Infinity` and `-Infinity` are read as numbers,
and of members with one name the last counts, in the place of the first.
-/

namespace LinkIndex.Json

inductive Fault
  | byteOrderMark
  | expectingValue
  | expectingName
  | expectingColon
  | expectingComma
  | extraData
  | invalidControl
  | invalidEscape
  | invalidUnicodeEscape
  | unterminatedString
  deriving DecidableEq, Repr

def Fault.message : Fault → String
  | .byteOrderMark => "Unexpected UTF-8 BOM (decode using utf-8-sig)"
  | .expectingValue => "Expecting value"
  | .expectingName => "Expecting property name enclosed in double quotes"
  | .expectingColon => "Expecting ':' delimiter"
  | .expectingComma => "Expecting ',' delimiter"
  | .extraData => "Extra data"
  | .invalidControl => "Invalid control character at"
  | .invalidEscape => "Invalid \\escape"
  | .invalidUnicodeEscape => "Invalid \\uXXXX escape"
  | .unterminatedString => "Unterminated string starting at"

/-- Why a text was refused: a fault with so many characters left from its place on, or a
whole number of more digits than are read. -/
inductive Stop
  | fault (fault : Fault) (left : Nat)
  | tooManyDigits (count : Nat)
  deriving DecidableEq, Repr

/-- The greatest number of digits of a whole number. -/
def maxDigits : Nat := 4300

def isWhite (c : Char) : Bool :=
  c = ' ' || c = '\t' || c = '\n' || c = '\r'

def skipWhite (cs : List Char) : List Char :=
  cs.dropWhile isWhite

/-- The value of a hexadecimal digit. -/
def hexValue? (c : Char) : Option Nat :=
  if '0' ≤ c ∧ c ≤ '9' then some (c.toNat - 0x30)
  else if 'a' ≤ c ∧ c ≤ 'f' then some (c.toNat - 0x57)
  else if 'A' ≤ c ∧ c ≤ 'F' then some (c.toNat - 0x37)
  else none

/-- The value of four hexadecimal digits. -/
def hexUnit? (a b c d : Char) : Option Nat :=
  match hexValue? a, hexValue? b, hexValue? c, hexValue? d with
  | some a, some b, some c, some d => some (((a * 16 + b) * 16 + c) * 16 + d)
  | _, _, _, _ => none

def isHighSurrogate (n : Nat) : Bool :=
  0xD800 ≤ n && n < 0xDC00

def isLowSurrogate (n : Nat) : Bool :=
  0xDC00 ≤ n && n < 0xE000

/-- A code unit as a character; half of a pair has none and is replaced. -/
def unitChar (n : Nat) : Char :=
  if isHighSurrogate n || isLowSurrogate n then '\ufffd' else Char.ofNat n

/-- The character that a one-letter escape stands for. -/
def simpleEscape? (c : Char) : Option Char :=
  if c = '"' ∨ c = '\\' ∨ c = '/' then some c
  else if c = 'b' then some '\x08'
  else if c = 'f' then some '\x0c'
  else if c = 'n' then some '\n'
  else if c = 'r' then some '\r'
  else if c = 't' then some '\t'
  else none

/-- Puts a character in front of a string that was read. -/
def consChar (c : Char) (r : Except Stop (List Char × List Char)) :
    Except Stop (List Char × List Char) :=
  match r with
  | .ok (cs, rest) => .ok (c :: cs, rest)
  | .error e => .error e

/-- The inside of a string, up to and with the closing mark. `opening` is the text from the
opening mark on. -/
def readString (opening : List Char) : List Char → Except Stop (List Char × List Char)
  | [] => .error (.fault .unterminatedString opening.length)
  | '"' :: rest => .ok ([], rest)
  | ['\\'] => .error (.fault .unterminatedString opening.length)
  | '\\' :: 'u' :: a :: b :: c :: d :: rest =>
    match hexUnit? a b c d, rest with
    | none, _ => .error (.fault .invalidUnicodeEscape (rest.length + 5))
    | some _, [] => .error (.fault .invalidUnicodeEscape 5)
    | some n, '\\' :: 'u' :: a' :: b' :: c' :: d' :: e' :: rest' =>
      if isHighSurrogate n then
        match hexUnit? a' b' c' d' with
        | none => .error (.fault .invalidUnicodeEscape (rest'.length + 6))
        | some n' =>
          if isLowSurrogate n' then
            consChar (Char.ofNat (0x10000 + (n - 0xD800) * 0x400 + (n' - 0xDC00)))
              (readString opening (e' :: rest'))
          else
            consChar (unitChar n)
              (readString opening ('\\' :: 'u' :: a' :: b' :: c' :: d' :: e' :: rest'))
      else
        consChar (unitChar n)
          (readString opening ('\\' :: 'u' :: a' :: b' :: c' :: d' :: e' :: rest'))
    | some n, rest => consChar (unitChar n) (readString opening rest)
  | '\\' :: c :: rest =>
    if c = 'u' then .error (.fault .invalidUnicodeEscape (rest.length + 1))
    else match simpleEscape? c with
      | some c => consChar c (readString opening rest)
      | none => .error (.fault .invalidEscape (rest.length + 2))
  | c :: rest =>
    if c.toNat < 0x20 then .error (.fault .invalidControl (rest.length + 1))
    else consChar c (readString opening rest)
  termination_by cs => cs.length

/-- The number that decimal digits denote. -/
def digitsValue (digits : List Char) : Nat :=
  digits.foldl (fun n c => n * 10 + (c.toNat - 0x30)) 0

/-- The digits before the point: one zero, or digits that start with another one. -/
def wholeDigits : List Char → Option (List Char × List Char)
  | '0' :: rest => some (['0'], rest)
  | c :: rest =>
    if c.isDigit then some (c :: rest.takeWhile Char.isDigit, rest.dropWhile Char.isDigit) else none
  | [] => none

/-- A point with the digits after it, if there are any. -/
def fractionDigits : List Char → List Char × List Char
  | '.' :: c :: rest =>
    if c.isDigit then (c :: rest.takeWhile Char.isDigit, rest.dropWhile Char.isDigit)
    else ([], '.' :: c :: rest)
  | cs => ([], cs)

def exponentPart (cs : List Char) : Option (Int × List Char) :=
  match cs with
  | e :: rest =>
    if e = 'e' ∨ e = 'E' then
      let (negative, digits) := match rest with
        | '-' :: r => (true, r)
        | '+' :: r => (false, r)
        | r => (false, r)
      match digits.takeWhile Char.isDigit with
      | [] => none
      | ds =>
        let n : Int := digitsValue ds
        some (if negative then -n else n, digits.dropWhile Char.isDigit)
    else none
  | [] => none

/-- A number without its sign. -/
def readNumber (negative : Bool) (cs : List Char) : Option (Except Stop (Json × List Char)) :=
  match wholeDigits cs with
  | none => none
  | some (whole, rest) =>
    let (fraction, rest) := fractionDigits rest
    match fraction, exponentPart rest with
    | [], none =>
      if maxDigits < whole.length then some (.error (.tooManyDigits whole.length))
      else
        let n : Int := digitsValue whole
        some (.ok (.int (if negative then -n else n), rest))
    | fraction, none =>
      some (.ok (.real (.ofDecimal negative (digitsValue (whole ++ fraction)) (-fraction.length)),
        rest))
    | fraction, some (x, rest) =>
      some (.ok (.real (.ofDecimal negative (digitsValue (whole ++ fraction))
        (x - fraction.length)), rest))

/-- The values that are words. -/
def literals : List (List Char × Json) :=
  [("null".toList, .null), ("true".toList, .bool true), ("false".toList, .bool false),
   ("NaN".toList, .real .nan), ("Infinity".toList, .real (.infinite false)),
   ("-Infinity".toList, .real (.infinite true))]

/-- A value that is a word or a number. -/
def readScalar (cs : List Char) : Except Stop (Json × List Char) :=
  match literals.findSome? fun p => (Text.dropPrefix? p.1 cs).map (p.2, ·) with
  | some r => .ok r
  | none =>
    let number? := match cs with
      | '-' :: rest => readNumber true rest
      | cs => readNumber false cs
    match number? with
    | some r => r
    | none => .error (.fault .expectingValue cs.length)

mutual

/-- A value at the start of `cs`. Every step down takes one unit of fuel. -/
def readValue (fuel : Nat) (cs : List Char) : Except Stop (Json × List Char) :=
  match fuel with
  | 0 => .error (.fault .expectingValue cs.length)
  | fuel + 1 =>
    match cs with
    | '"' :: rest =>
      match readString cs rest with
      | .ok (s, rest) => .ok (.str (String.ofList s), rest)
      | .error e => .error e
    | '\x7b' :: rest =>
      match skipWhite rest with
      | '\x7d' :: rest => .ok (.obj [], rest)
      | rest => readMembers fuel [] rest
    | '[' :: rest =>
      match skipWhite rest with
      | ']' :: rest => .ok (.arr [], rest)
      | rest => readElements fuel [] rest
    | cs => readScalar cs

/-- The elements of a list from the next one on; `done` holds those before, in reverse. -/
def readElements (fuel : Nat) (done : List Json) (cs : List Char) :
    Except Stop (Json × List Char) :=
  match fuel with
  | 0 => .error (.fault .expectingValue cs.length)
  | fuel + 1 =>
    match readValue fuel cs with
    | .error e => .error e
    | .ok (v, rest) =>
      match skipWhite rest with
      | ']' :: rest => .ok (.arr (v :: done).reverse, rest)
      | ',' :: rest => readElements fuel (v :: done) (skipWhite rest)
      | rest => .error (.fault .expectingComma rest.length)

/-- The members of an object from the next one on. -/
def readMembers (fuel : Nat) (done : Assoc String Json) (cs : List Char) :
    Except Stop (Json × List Char) :=
  match fuel with
  | 0 => .error (.fault .expectingValue cs.length)
  | fuel + 1 =>
    match cs with
    | '"' :: rest =>
      match readString cs rest with
      | .error e => .error e
      | .ok (k, rest) =>
        match skipWhite rest with
        | ':' :: rest =>
          match readValue fuel (skipWhite rest) with
          | .error e => .error e
          | .ok (v, rest) =>
            let done := done.put (String.ofList k) v
            match skipWhite rest with
            | '\x7d' :: rest => .ok (.obj done, rest)
            | ',' :: rest => readMembers fuel done (skipWhite rest)
            | rest => .error (.fault .expectingComma rest.length)
        | rest => .error (.fault .expectingColon rest.length)
    | cs => .error (.fault .expectingName cs.length)

end

def readChars (cs : List Char) : Except Stop Json :=
  if cs.head? = some '\ufeff' then .error (.fault .byteOrderMark cs.length)
  else match readValue (2 * cs.length + 2) (skipWhite cs) with
    | .error e => .error e
    | .ok (v, rest) =>
      match skipWhite rest with
      | [] => .ok v
      | rest => .error (.fault .extraData rest.length)

/-- A refusal with its place: line and column count from one, characters from zero. -/
structure ReadError where
  fault : Fault
  line : Nat
  column : Nat
  offset : Nat
  deriving DecidableEq, Repr

/-- Finds the line and the column of an offset. -/
def ReadError.at (fault : Fault) (text : List Char) (offset : Nat) : ReadError :=
  let before := text.take offset
  { fault, offset
    line := before.count '\n' + 1
    column := (before.reverse.takeWhile (· ≠ '\n')).length + 1 }

def ReadError.message (e : ReadError) : String :=
  e.fault.message ++ ": line " ++ toString e.line ++ " column " ++ toString e.column ++
    " (char " ++ toString e.offset ++ ")"

inductive ParseError
  | malformed (error : ReadError)
  | tooManyDigits (count : Nat)
  deriving DecidableEq, Repr

def parse (text : List Char) : Except ParseError Json :=
  match readChars text with
  | .ok v => .ok v
  | .error (.fault fault left) => .error (.malformed (.at fault text (text.length - left)))
  | .error (.tooManyDigits n) => .error (.tooManyDigits n)

end LinkIndex.Json

namespace LinkIndex

/-- What is said of a whole number with too many digits. -/
def tooManyDigitsMessage (count : Nat) : String :=
  "Exceeds the limit (4300 digits) for integer string conversion: value has " ++
    toString count ++ " digits; use sys.set_int_max_str_digits() to increase the limit"

end LinkIndex

import LinkIndex.Json.Reader
import LinkIndex.Text.Letters
import LinkIndex.Text.Quoted

/-!
Whole numbers in text: blanks around them, a sign, and digits of any script. In front of digits
that are not decimal the mark of their base may stand once more.
-/

namespace LinkIndex.Whole

inductive Error
  | notWhole (text : String) (base : Nat)
  | tooManyDigits (count : Nat)
  deriving DecidableEq, Repr

/-- No more of a text than this is quoted. -/
def maxQuoted : Nat := 200

def Error.message : Error → String
  | .notWhole text base =>
    "invalid literal for int() with base " ++ toString base ++ ": " ++
      String.ofList ((quoted text).toList.take maxQuoted)
  | .tooManyDigits count => tooManyDigitsMessage count

/-- Blanks and digits beyond ASCII stand for those of ASCII. -/
def plainChar (c : Char) : Char :=
  if c.toNat < 0x7F then c
  else if isBlank c then ' '
  else (decimalValue? c).elim c Nat.digitChar

/-- A text in plain characters, without the blanks around it. -/
def plain (text : List Char) : List Char :=
  Text.trimEndBy isAsciiBlank (Text.trimStartBy isAsciiBlank (text.map plainChar))

def dropSign : List Char → List Char
  | '+' :: rest => rest
  | '-' :: rest => rest
  | cs => cs

def isNegative (text : List Char) : Bool :=
  text.head? = some '-'

/-- The base that a letter behind a zero marks. -/
def markedBase? (c : Char) : Option Nat :=
  [('b', 2), ('o', 8), ('x', 16)].lookup c.toLower

def dropMark (base : Nat) : List Char → List Char
  | '0' :: x :: rest => if markedBase? x = some base then rest else '0' :: x :: rest
  | cs => cs

def digitValue? (base : Nat) (c : Char) : Option Nat :=
  (Json.hexValue? c).filter (· < base)

def digitsValue (base : Nat) (digits : List Char) : Nat :=
  digits.foldl (fun n c => n * base + (digitValue? base c).getD 0) 0

/-- The whole number that a text denotes. Digits are counted before what follows them is looked
at, and only where they are decimal. -/
def read (base : Nat) (text : List Char) : Except Error Int :=
  let cs := plain text
  let body := dropMark base (dropSign cs)
  let digits := body.takeWhile fun c => (digitValue? base c).isSome
  if base = 10 ∧ Json.maxDigits < digits.length then .error (.tooManyDigits digits.length)
  else if digits = [] ∨ digits.length < body.length then
    .error (.notWhole (String.ofList text) base)
  else .ok (if isNegative cs then -digitsValue base digits else digitsValue base digits)

end LinkIndex.Whole

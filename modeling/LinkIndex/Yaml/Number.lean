import LinkIndex.Text.Lowercase
import LinkIndex.Yaml.Error
import LinkIndex.Yaml.Scalar.Plain

/-!
Numbers in YAML. Underscores may stand between their digits. Which plain texts are
numbers is a question of their form; what number a text denotes is another, and a
text that is only underscores has the form of a number and denotes none.
-/

namespace LinkIndex.Yaml

def isDigitOrMark (c : Char) : Bool :=
  c.isDigit || c = '_'

/-- Whether a text is not empty and all of its characters satisfy `p`. -/
def isRun (p : Char → Bool) (cs : List Char) : Bool :=
  !cs.isEmpty && cs.all p

def isBinaryRun : List Char → Bool :=
  isRun fun c => c = '0' || c = '1' || c = '_'

def isOctalRun : List Char → Bool :=
  isRun fun c => ('0' ≤ c && c ≤ '7') || c = '_'

def isHexRun : List Char → Bool :=
  isRun fun c => c.isHexDigit || c = '_'

/-- Parts of sixty behind a colon: one or two digits, the first of two below six. -/
def isSixtieth : List Char → Bool
  | [a] => a.isDigit
  | [a, b] => '0' ≤ a && a ≤ '5' && b.isDigit
  | _ => false

/-- A number in parts of sixty. -/
def isSexagesimal (cs : List Char) : Bool :=
  match Text.cutAt (· = ':') cs with
  | (d :: first) :: part :: rest =>
    '1' ≤ d && d ≤ '9' && first.all isDigitOrMark && (part :: rest).all isSixtieth
  | _ => false

/-- Whether a text starts as whole numbers do: with a sign or a digit, not with an underscore. -/
def startsAsInt (text : List Char) : Bool :=
  text.head?.any fun c => c = '+' || c = '-' || c.isDigit

def hasIntForm (version : Version) (text : List Char) : Bool :=
  let old := version = .v1_1
  startsAsInt text && match Whole.dropSign text with
  | '0' :: 'b' :: rest => isBinaryRun rest
  | '0' :: 'x' :: rest => isHexRun rest
  | '0' :: 'o' :: rest => !old && isOctalRun rest
  | cs =>
    if old then
      isOctalRun cs || (cs.head?.any (fun c => '1' ≤ c && c ≤ '9') && cs.all isDigitOrMark) ||
        isSexagesimal cs
    else isRun isDigitOrMark cs

/-- An exponent up to the end of the text; `signed` asks for a sign. -/
def isExponent (signed : Bool) : List Char → Bool
  | e :: rest =>
    (e = 'e' || e = 'E') &&
      match rest with
      | s :: digits =>
        if s = '+' ∨ s = '-' then isRun Char.isDigit digits
        else !signed && isRun Char.isDigit rest
      | [] => false
  | [] => false

/-- Whether a text has the form of a number with a point or an exponent. -/
def hasRealForm (version : Version) (text : List Char) : Bool :=
  let old := version = .v1_1
  let cs := Whole.dropSign text
  let signed := text ≠ cs
  let words := [".inf".toList, ".Inf".toList, ".INF".toList]
  let nans := [".nan".toList, ".NaN".toList, ".NAN".toList]
  if words.contains cs then true
  else if nans.contains cs then !signed
  else match cs with
    | '.' :: rest =>
      !(old && signed) &&
        let digits := rest.takeWhile isDigitOrMark
        let rest := rest.drop digits.length
        !digits.isEmpty && (rest.isEmpty || isExponent true rest)
    | d :: _ =>
      d.isDigit &&
        let rest := cs.dropWhile isDigitOrMark
        match rest with
        | '.' :: rest =>
          let rest := rest.dropWhile isDigitOrMark
          rest.isEmpty || isExponent false rest
        | rest =>
          isExponent false rest ||
            (old && match Text.cutAt (· = '.') cs with
              | [whole, fraction] =>
                (Text.cutAt (· = ':') whole).tail.length ≠ 0 &&
                  (Text.cutAt (· = ':') whole).tail.all isSixtieth && fraction.all isDigitOrMark
              | _ => false)
    | [] => false

def dropMarks (text : List Char) : List Char :=
  text.filter (· ≠ '_')

def wholeNumber (base : Nat) (digits : List Char) : Except Error Int :=
  (Whole.read base digits).mapError .whole

/-- The whole number that a text denotes. Up to the older version a zero marks a number in base
eight, and colons part numbers in base sixty. -/
def readInt (version : Version) (text : String) : Except Error Int := do
  let written := dropMarks text.toList
  if written = [] then throw .noDigits
  let sign : Int := if Whole.isNegative written then -1 else 1
  let inBase (base : Nat) (digits : List Char) : Except Error Int :=
    if digits = [] ∧ !version.isOld then throw .noDigits else (sign * ·) <$> wholeNumber base digits
  match Whole.dropSign written with
  | ['0'] => return 0
  | '0' :: 'b' :: rest => inBase 2 rest
  | '0' :: 'x' :: rest => inBase 16 rest
  | '0' :: 'o' :: rest => inBase 8 rest
  | [] => throw .noDigits
  | cs =>
    if version ≠ .v1_2 ∧ cs.head? = some '0' then (sign * ·) <$> wholeNumber 8 cs
    else if version ≠ .v1_2 ∧ ':' ∈ cs then do
      let parts ← (Text.cutAt (· = ':') cs).mapM (wholeNumber 10)
      return sign * parts.foldl (fun n part => n * 60 + part) 0
    else (sign * ·) <$> wholeNumber 10 cs

/-- A decimal in lower case: digits with or without a point, and an exponent. -/
def decimal? (cs : List Char) : Option (Nat × Int) :=
  let whole := cs.takeWhile Char.isDigit
  let rest := cs.dropWhile Char.isDigit
  let (fraction, rest) := match rest with
    | '.' :: rest => (rest.takeWhile Char.isDigit, rest.dropWhile Char.isDigit)
    | rest => ([], rest)
  if whole = [] ∧ fraction = [] then none
  else
    let digits := Json.digitsValue (whole ++ fraction)
    match rest, Json.exponentPart rest with
    | [], _ => some (digits, -fraction.length)
    | _, some (x, []) => some (digits, x - fraction.length)
    | _, _ => none

/-- The number that a text in lower case denotes. -/
def realNumber (text : List Char) : Except Error Binary64 :=
  let word := Whole.plain text
  let negative := Whole.isNegative word
  let body := Whole.dropSign word
  if body = "inf".toList ∨ body = "infinity".toList then .ok (.infinite negative)
  else if body = "nan".toList then .ok .nan
  else match decimal? body with
    | some (digits, x) => .ok (.ofDecimal negative digits x)
    | none => .error (.notReal (String.ofList text))

/-- Adds up numbers in base sixty, the last one first. -/
def sexagesimal (power : Nat) (sum : Binary64) : List Binary64 → Except Error Binary64
  | [] => .ok sum
  | part :: rest =>
    let factor := Binary64.ofRatio false power 1
    if factor = .infinite false then .error .tooManyParts
    else sexagesimal (power * 60) (sum.add (part.mul factor)) rest

/-- Checks the exponent of a number, if it has the letter of one: the text has to fall into two
parts at the small letters or else at the capital ones, and the second must not be empty. -/
def checkExponent (text : List Char) : Except Error Unit :=
  let check : List Char → Except Error Unit := fun x => if x = [] then .error .noDigits else .ok ()
  if text.all fun c => c ≠ 'e' && c ≠ 'E' then .ok ()
  else match Text.cutAt (· = 'e') text, Text.cutAt (· = 'E') text with
    | [_, x], _ => check x
    | _, [_, x] => check x
    | _, [_] => .error (.exponentMark false)
    | _, _ => .error (.exponentMark true)

def isNanWord (text : String) : Bool :=
  Whole.dropSign (lowercase (dropMarks text.toList)) = ".nan".toList

/-- The number with a point that a text denotes. -/
def readReal (version : Version) (text : String) : Except Error Binary64 := do
  let written := lowercase (dropMarks text.toList)
  if written = [] then throw .noDigits
  let signed (x : Binary64) : Binary64 := if Whole.isNegative written then x.negate else x
  let cs := Whole.dropSign written
  if cs = ".inf".toList then return signed (.infinite false)
  else if version ≠ .v1_2 ∧ ':' ∈ cs then do
    let parts ← (Text.cutAt (· = ':') cs).mapM realNumber
    return signed (← sexagesimal 1 (.zero false) parts.reverse)
  else
    checkExponent text.toList
    return signed (← realNumber cs)

end LinkIndex.Yaml

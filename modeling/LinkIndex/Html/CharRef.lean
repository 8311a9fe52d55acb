import LinkIndex.Html.Entities
import LinkIndex.Json.Reader

/-!
Character references. `&` with a number or a name behind it stands for
characters. Numbers of the old Windows code page mean the characters of that
page; a name counts also where only its beginning is a name.
-/

namespace LinkIndex.Html

/-- What the numbers from `80` to `9F` mean, by the Windows code page. -/
def windowsImages : List Nat :=
  [0x20AC, 0x81, 0x201A, 0x192, 0x201E, 0x2026, 0x2020, 0x2021, 0x2C6, 0x2030, 0x160, 0x2039,
   0x152, 0x8D, 0x17D, 0x8F, 0x90, 0x2018, 0x2019, 0x201C, 0x201D, 0x2022, 0x2013, 0x2014,
   0x2DC, 0x2122, 0x161, 0x203A, 0x153, 0x9D, 0x17E, 0x178]

/-- Numbers that stand for no character at all. -/
def isNoncharacter (n : Nat) : Bool :=
  (0x1 ≤ n && n ≤ 0x8) || n = 0xB || (0xE ≤ n && n ≤ 0x1F) || n = 0x7F ||
    (0xFDD0 ≤ n && n ≤ 0xFDEF) || 0xFFFE ≤ n % 0x10000

/-- The characters that a number stands for. -/
def numberImage (n : Nat) : List Char :=
  if n = 0 then ['\ufffd']
  else if 0x80 ≤ n ∧ n ≤ 0x9F then [Char.ofNat (windowsImages.getD (n - 0x80) n)]
  else if (0xD800 ≤ n ∧ n ≤ 0xDFFF) ∨ 0x10FFFF < n then ['\ufffd']
  else if isNoncharacter n then []
  else [Char.ofNat n]

/-- The number that hexadecimal digits denote. -/
def hexNumber (digits : List Char) : Nat :=
  digits.foldl (fun n c => n * 16 + (Json.hexValue? c).getD 0) 0

/-- How many characters a semicolon at the start of `cs` takes. -/
def semicolonLength (cs : List Char) : Nat :=
  if cs.head? = some ';' then 1 else 0

def endsName (c : Char) : Bool :=
  c = '\t' || c = '\n' || c = '\x0c' || c = ' ' || c = '<' || c = '&' || c = '#' || c = ';'

/-- The longest beginning of `name` with `k` characters at most, but at least two, that is a
name; what follows it stands for itself. -/
def longestEntity (name : List Char) : Nat → Option (List Char)
  | 0 => none
  | k + 1 =>
    if k = 0 then none
    else match entity? (name.take (k + 1)) with
      | some image => some (image ++ name.drop (k + 1))
      | none => longestEntity name k

/-- The characters that a name stands for, if any beginning of it is a name. -/
def nameImage (name : List Char) : List Char :=
  match entity? name with
  | some image => image
  | none => (longestEntity name (name.length - 1)).getD ('&' :: name)

/-- The reference behind an `&`: the characters it stands for, and how many it takes. -/
def reference? : List Char → Option (List Char × Nat)
  | '#' :: rest =>
    match rest with
    | x :: digits =>
      let hex := digits.takeWhile Char.isHexDigit
      let decimal := rest.takeWhile Char.isDigit
      if decimal ≠ [] then
        some (numberImage (Json.digitsValue decimal),
          1 + decimal.length + semicolonLength (rest.dropWhile Char.isDigit))
      else if (x = 'x' ∨ x = 'X') ∧ hex ≠ [] then
        some (numberImage (hexNumber hex),
          2 + hex.length + semicolonLength (digits.dropWhile Char.isHexDigit))
      else none
    | [] => none
  | rest =>
    let body := (rest.takeWhile fun c => !endsName c).take 32
    if body = [] then none
    else
      let name := body ++ (rest.drop body.length).take (semicolonLength (rest.drop body.length))
      some (nameImage name, name.length)

/-- Decodes a text of which the first `skip` characters belong to a reference before it. -/
def unescapeFrom : Nat → List Char → List Char
  | _, [] => []
  | skip + 1, _ :: rest => unescapeFrom skip rest
  | 0, '&' :: rest =>
    match reference? rest with
    | some (image, length) => image ++ unescapeFrom length rest
    | none => '&' :: unescapeFrom 0 rest
  | 0, c :: rest => c :: unescapeFrom 0 rest

/-- Decodes every character reference of a text. -/
def unescape (text : List Char) : List Char :=
  unescapeFrom 0 text

/-- Whether a decimal number is short enough to be read. -/
def isCountedBy (digits : List Char) : Bool :=
  digits.length ≤ Json.maxDigits

structure Overlong where
  digits : Nat
  deriving DecidableEq, Repr

def overlong? : List Char → Option Overlong
  | [] => none
  | '&' :: '#' :: rest =>
    let number := rest.takeWhile Char.isDigit
    if isCountedBy number then overlong? rest else some ⟨number.length⟩
  | _ :: rest => overlong? rest

/-- Whether every decimal reference of a text has a number that is short enough to be read. -/
def isCountable (text : List Char) : Bool :=
  (overlong? text).isNone

/-- Decodes a text, or tells the first number in it that is too long. -/
def decode (text : List Char) : Except Overlong (List Char) :=
  match overlong? text with
  | some e => .error e
  | none => .ok (unescape text)

end LinkIndex.Html

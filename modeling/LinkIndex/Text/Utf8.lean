/-!
Reading bytes as UTF-8. A refusal says which bytes could not be read and why:
a byte that starts no character, a character broken off by the wrong byte, or
one broken off by the end of the data.
-/

namespace LinkIndex.Utf8

inductive Fault
  | invalidStart
  | invalidContinuation
  | unexpectedEnd
  deriving DecidableEq, Repr

/-- A refusal: the bytes from `start` up to `stop` are not UTF-8. `first` is the first of them. -/
structure DecodeError where
  first : UInt8
  start : Nat
  stop : Nat
  fault : Fault
  deriving DecidableEq, Repr

def Fault.message : Fault → String
  | .invalidStart => "invalid start byte"
  | .invalidContinuation => "invalid continuation byte"
  | .unexpectedEnd => "unexpected end of data"

def hexDigit (n : Nat) : Char :=
  if n < 10 then Char.ofNat (0x30 + n) else Char.ofNat (0x57 + n)

/-- A byte as two hexadecimal digits. -/
def hexByte (b : UInt8) : String :=
  String.ofList [hexDigit (b.toNat / 16), hexDigit (b.toNat % 16)]

/-- One byte is named by its value, several by their positions. -/
def DecodeError.message (e : DecodeError) : String :=
  if e.stop = e.start + 1 then
    "'utf-8' codec can't decode byte 0x" ++ hexByte e.first ++ " in position " ++
      toString e.start ++ ": " ++ e.fault.message
  else
    "'utf-8' codec can't decode bytes in position " ++ toString e.start ++ "-" ++
      toString (e.stop - 1) ++ ": " ++ e.fault.message

/-- Bytes `80` to `BF` continue a character. -/
def isContinuation (b : UInt8) : Bool :=
  0x80 ≤ b && b < 0xC0

/-- Whether `second` may follow `first`: the shortest form only, no surrogates,
nothing above `10FFFF`. -/
def secondFits (first second : UInt8) : Bool :=
  isContinuation second &&
    (first != 0xE0 || 0xA0 ≤ second) && (first != 0xED || second < 0xA0) &&
    (first != 0xF0 || 0x90 ≤ second) && (first != 0xF4 || second < 0x90)

/-- How many bytes a character has by its first byte; none where no character starts. -/
def length? (first : UInt8) : Option Nat :=
  if first < 0x80 then some 1
  else if first < 0xC2 then none
  else if first < 0xE0 then some 2
  else if first < 0xF0 then some 3
  else if first < 0xF5 then some 4
  else none

def low6 (b : UInt8) : Nat :=
  b.toNat % 64

/-- The character at the start of `bytes`, and how many bytes it takes; or what is
wrong, and how many bytes the complaint covers. -/
def decodeOne (first : UInt8) (rest : List UInt8) : Except (Nat × Fault) (Char × Nat) :=
  match length? first with
  | none => .error (1, .invalidStart)
  | some 1 => .ok (Char.ofNat first.toNat, 1)
  | some n =>
    match rest with
    | [] => .error (1, .unexpectedEnd)
    | b1 :: rest1 =>
      if !secondFits first b1 then .error (1, .invalidContinuation)
      else if n = 2 then .ok (Char.ofNat (first.toNat % 32 * 64 + low6 b1), 2)
      else match rest1 with
        | [] => .error (2, .unexpectedEnd)
        | b2 :: rest2 =>
          if !isContinuation b2 then .error (2, .invalidContinuation)
          else if n = 3 then
            .ok (Char.ofNat ((first.toNat % 16 * 64 + low6 b1) * 64 + low6 b2), 3)
          else match rest2 with
            | [] => .error (3, .unexpectedEnd)
            | b3 :: _ =>
              if !isContinuation b3 then .error (3, .invalidContinuation)
              else .ok (Char.ofNat
                (((first.toNat % 8 * 64 + low6 b1) * 64 + low6 b2) * 64 + low6 b3), 4)

/-- Reads bytes that start at position `at_`; `skip` of them belong to the character before. -/
def decodeFrom (at_ : Nat) (skip : Nat) : List UInt8 → Except DecodeError (List Char)
  | [] => .ok []
  | b :: rest =>
    match skip with
    | k + 1 => decodeFrom (at_ + 1) k rest
    | 0 =>
      match decodeOne b rest with
      | .error (n, fault) => .error ⟨b, at_, at_ + n, fault⟩
      | .ok (c, n) =>
        match decodeFrom (at_ + 1) (n - 1) rest with
        | .error e => .error e
        | .ok cs => .ok (c :: cs)

def decode (bytes : List UInt8) : Except DecodeError (List Char) :=
  decodeFrom 0 0 bytes

/-- The bytes of a character. -/
def encodeOne (c : Char) : List UInt8 :=
  let n := c.toNat
  if n < 0x80 then [UInt8.ofNat n]
  else if n < 0x800 then [UInt8.ofNat (0xC0 + n / 64), UInt8.ofNat (0x80 + n % 64)]
  else if n < 0x10000 then
    [UInt8.ofNat (0xE0 + n / 4096), UInt8.ofNat (0x80 + n / 64 % 64), UInt8.ofNat (0x80 + n % 64)]
  else
    [UInt8.ofNat (0xF0 + n / 262144), UInt8.ofNat (0x80 + n / 4096 % 64),
     UInt8.ofNat (0x80 + n / 64 % 64), UInt8.ofNat (0x80 + n % 64)]

def encode (text : List Char) : List UInt8 :=
  text.flatMap encodeOne

end LinkIndex.Utf8

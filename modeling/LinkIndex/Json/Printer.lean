import LinkIndex.Json.Basic
import LinkIndex.Number.Shortest
import LinkIndex.Text.Quoted

/-!
Three ways to write a JSON value: on one line, where every character outside of
ASCII is escaped; over several lines with two spaces for each level, where
characters stand for themselves; and as the plain text that an identifier is
made of.
-/

namespace LinkIndex.Json

/-- `\uXXXX`. -/
def escapeUnit (n : Nat) : List Char :=
  '\\' :: 'u' :: Quoted.hexDigits 4 n

/-- The escape of a code point: above the basic plane it takes two units. -/
def escapePoint (n : Nat) : List Char :=
  if n < 0x10000 then escapeUnit n
  else escapeUnit (0xD800 + (n - 0x10000) / 0x400) ++ escapeUnit (0xDC00 + (n - 0x10000) % 0x400)

def encodeChar (asciiOnly : Bool) (c : Char) : List Char :=
  if c = '"' then ['\\', '"']
  else if c = '\\' then ['\\', '\\']
  else if c = '\n' then ['\\', 'n']
  else if c = '\r' then ['\\', 'r']
  else if c = '\t' then ['\\', 't']
  else if c.toNat = 0x8 then ['\\', 'b']
  else if c.toNat = 0xC then ['\\', 'f']
  else if c.toNat < 0x20 then escapeUnit c.toNat
  else if asciiOnly && 0x7F ≤ c.toNat then escapePoint c.toNat
  else [c]

def encodeString (asciiOnly : Bool) (text : List Char) : List Char :=
  '"' :: text.flatMap (encodeChar asciiOnly) ++ ['"']

/-- Numbers that are not finite have names of their own. -/
def encodeReal : Binary64 → String
  | .nan => "NaN"
  | .infinite negative => if negative then "-Infinity" else "Infinity"
  | x => x.text

mutual

def inlineChars : Json → List Char
  | .null => "null".toList
  | .bool b => (if b then "true" else "false").toList
  | .int n => (toString n).toList
  | .real x => (encodeReal x).toList
  | .str s => encodeString true s.toList
  | .arr elements => '[' :: inlineElements elements ++ [']']
  | .obj members => '\x7b' :: inlineMembers members ++ ['\x7d']

def inlineElements : List Json → List Char
  | [] => []
  | [v] => inlineChars v
  | v :: rest => inlineChars v ++ ',' :: ' ' :: inlineElements rest

def inlineMembers : List (String × Json) → List Char
  | [] => []
  | [(k, v)] => encodeString true k.toList ++ ':' :: ' ' :: inlineChars v
  | (k, v) :: rest =>
    encodeString true k.toList ++ ':' :: ' ' :: inlineChars v ++ ',' :: ' ' :: inlineMembers rest

end

/-- A value on one line, in ASCII. -/
def inline (v : Json) : String :=
  String.ofList (inlineChars v)

/-- A line break and the indentation of a level. -/
def newLine (level : Nat) : List Char :=
  '\n' :: List.replicate (2 * level) ' '

mutual

def indentedChars (level : Nat) : Json → List Char
  | .null => "null".toList
  | .bool b => (if b then "true" else "false").toList
  | .int n => (toString n).toList
  | .real x => (encodeReal x).toList
  | .str s => encodeString false s.toList
  | .arr [] => ['[', ']']
  | .arr (v :: rest) =>
    '[' :: newLine (level + 1) ++ indentedElements (level + 1) (v :: rest) ++
      newLine level ++ [']']
  | .obj [] => ['\x7b', '\x7d']
  | .obj (m :: rest) =>
    '\x7b' :: newLine (level + 1) ++ indentedMembers (level + 1) (m :: rest) ++
      newLine level ++ ['\x7d']

/-- Elements, each on a line of its own. -/
def indentedElements (level : Nat) : List Json → List Char
  | [] => []
  | [v] => indentedChars level v
  | v :: rest => indentedChars level v ++ ',' :: newLine level ++ indentedElements level rest

/-- Members, each on a line of its own. -/
def indentedMembers (level : Nat) : List (String × Json) → List Char
  | [] => []
  | [(k, v)] => encodeString false k.toList ++ ':' :: ' ' :: indentedChars level v
  | (k, v) :: rest =>
    encodeString false k.toList ++ ':' :: ' ' :: indentedChars level v ++
      ',' :: newLine level ++ indentedMembers level rest

end

/-- A value over several lines, two spaces for each level. -/
def indented (v : Json) : String :=
  String.ofList (indentedChars 0 v)

mutual

/-- The plain text of a value inside a list or a map, where strings are quoted. -/
def displayChars : Json → List Char
  | .null => "None".toList
  | .bool b => (if b then "True" else "False").toList
  | .int n => (toString n).toList
  | .real x => x.text.toList
  | .str s => Quoted.encode s.toList
  | .arr elements => '[' :: displayElements elements ++ [']']
  | .obj members => '\x7b' :: displayMembers members ++ ['\x7d']

def displayElements : List Json → List Char
  | [] => []
  | [v] => displayChars v
  | v :: rest => displayChars v ++ ',' :: ' ' :: displayElements rest

def displayMembers : List (String × Json) → List Char
  | [] => []
  | [(k, v)] => Quoted.encode k.toList ++ ':' :: ' ' :: displayChars v
  | (k, v) :: rest =>
    Quoted.encode k.toList ++ ':' :: ' ' :: displayChars v ++ ',' :: ' ' :: displayMembers rest

end

/-- The plain text of a value: a string is its own text. -/
def display : Json → String
  | .str s => s
  | v => String.ofList (displayChars v)

end LinkIndex.Json

import LinkIndex.Json.Reader
import LinkIndex.Text.Quoted

/-!
Why TOML text is refused: a cause, and the place in the text at which it was found.
-/

namespace LinkIndex.Toml

abbrev Key := List String

def Key.text : Key → String
  | [part] => "(" ++ quoted part ++ ",)"
  | parts => "(" ++ String.intercalate ", " (parts.map quoted) ++ ")"

inductive Fault
  | statement
  | statementEnd
  | declaredTwice (key : Key)
  | overwritten
  | tableEnd
  | arrayTableEnd
  | immutable (key : Key)
  | redefined (key : Key)
  | noEquals
  | keyStart
  | unclosedArray
  | repeatedKey (part : String)
  | unclosedTable
  | escape
  | hexValue
  | notACharacter
  | unterminated
  | illegalCharacter (c : Char)
  | missing (mark : String)
  | invalidCharacter (c : Char)
  | date
  | value
  deriving DecidableEq, Repr

def Fault.message : Fault → String
  | .statement => "Invalid statement"
  | .statementEnd => "Expected newline or end of document after a statement"
  | .declaredTwice key => "Cannot declare " ++ key.text ++ " twice"
  | .overwritten => "Cannot overwrite a value"
  | .tableEnd => "Expected ']' at the end of a table declaration"
  | .arrayTableEnd => "Expected ']]' at the end of an array declaration"
  | .immutable key => "Cannot mutate immutable namespace " ++ key.text
  | .redefined key => "Cannot redefine namespace " ++ key.text
  | .noEquals => "Expected '=' after a key in a key/value pair"
  | .keyStart => "Invalid initial character for a key part"
  | .unclosedArray => "Unclosed array"
  | .repeatedKey part => "Duplicate inline table key " ++ quoted part
  | .unclosedTable => "Unclosed inline table"
  | .escape => "Unescaped '\\' in a string"
  | .hexValue => "Invalid hex value"
  | .notACharacter => "Escaped character is not a Unicode scalar value"
  | .unterminated => "Unterminated string"
  | .illegalCharacter c => "Illegal character " ++ quoted (String.singleton c)
  | .missing mark => "Expected " ++ quoted mark
  | .invalidCharacter c => "Found invalid character " ++ quoted (String.singleton c)
  | .date => "Invalid date or datetime"
  | .value => "Invalid value"

/-- Why a text was refused: a fault with so many characters left from its place on, or a whole
number of more digits than are read. -/
inductive Stop
  | fault (fault : Fault) (left : Nat)
  | tooManyDigits (count : Nat)
  deriving DecidableEq, Repr

/-- The place at which so many characters are left of a text. -/
def placeText (text : List Char) (left : Nat) : String :=
  if left = 0 then "end of document"
  else
    let before := text.take (text.length - left)
    let column := (before.reverse.takeWhile (· ≠ '\n')).length + 1
    "line " ++ toString (before.count '\n' + 1) ++ ", column " ++ toString column

inductive Error
  | malformed (message : String)
  | tooManyDigits (count : Nat)
  deriving DecidableEq, Repr

def Error.ofStop (text : List Char) : Stop → Error
  | .fault fault left => .malformed (fault.message ++ " (at " ++ placeText text left ++ ")")
  | .tooManyDigits count => .tooManyDigits count

def Error.message : Error → String
  | .malformed message => message
  | .tooManyDigits count => tooManyDigitsMessage count

end LinkIndex.Toml

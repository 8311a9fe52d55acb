import LinkIndex.Number.Whole

/-!
Why YAML text is refused. Almost every refusal is one cause, for what matters is
that the text is not YAML; the others are values that are written well but denote
nothing, and each of those has a message of its own.
-/

namespace LinkIndex.Yaml

inductive TimePart
  | year
  | month
  | day
  | hour
  | minute
  | second
  deriving DecidableEq, Repr

def TimePart.message : TimePart → String
  | .year => "year 0 is out of range"
  | .month => "month must be in 1..12"
  | .day => "day is out of range for month"
  | .hour => "hour must be in 0..23"
  | .minute => "minute must be in 0..59"
  | .second => "second must be in 0..59"

/-- A span of minutes as whole days and the seconds of the day that is left. -/
def spanText (minutes : Int) : String :=
  let days := minutes.fdiv 1440
  let seconds := minutes.fmod 1440 * 60
  "datetime.timedelta(days=" ++ toString days ++
    (if seconds = 0 then "" else ", seconds=" ++ toString seconds) ++ ")"

inductive Error
  /-- The text is not YAML, or a key stands twice, or an alias has no anchor. -/
  | malformed
  /-- A number without a digit, or an exponent without a character. -/
  | noDigits
  | whole (error : Whole.Error)
  /-- A text that is tagged as a number with a point and is none. -/
  | notReal (text : String)
  /-- A number with the letter of an exponent in it, but not one such letter: none of either
  case, or several. -/
  | exponentMark (several : Bool)
  /-- A number in so many parts of sixty that the first one counts for more than any real. -/
  | tooManyParts
  /-- A text that is tagged as a truth value and is none. -/
  | notBool (text : String)
  /-- A date or a time of day that does not exist. -/
  | noSuchTime (part : TimePart)
  /-- A time zone a day or more away from universal time. -/
  | noSuchZone (minutes : Int)
  /-- A time that is rounded up to one after the last day there is. -/
  | afterLastDay
  /-- An escape beyond the last character, which may even be too large for a word. -/
  | noSuchCharacter (beyondWords : Bool)
  /-- A key that holds a list or a map, by the name of what it holds. -/
  | compoundKey (holds : String)
  /-- A key that stands twice in an ordered map. -/
  | repeatedEntry
  /-- A set in place of a map that is to be merged. -/
  | mergedSet
  /-- A version of the language that is not known. -/
  | unknownVersion (minor : Nat)
  deriving DecidableEq, Repr

/-- What is said of a refusal; nothing where the text is not YAML. -/
def Error.message : Error → String
  | .malformed => ""
  | .noDigits => "string index out of range"
  | .whole error => error.message
  | .notReal text => "could not convert string to float: " ++ quoted text
  | .exponentMark several =>
    if several then "too many values to unpack (expected 2)"
    else "not enough values to unpack (expected 2, got 1)"
  | .tooManyParts => "int too large to convert to float"
  | .notBool text => quoted text
  | .noSuchTime part => part.message
  | .noSuchZone minutes =>
    "offset must be a timedelta strictly between -timedelta(hours=24) and " ++
      "timedelta(hours=24), not " ++ spanText minutes ++ "."
  | .afterLastDay => "date value out of range"
  | .noSuchCharacter beyondWords =>
    if beyondWords then "Python int too large to convert to C int"
    else "chr() arg not in range(0x110000)"
  | .compoundKey holds => "unhashable type: '" ++ holds ++ "'"
  | .repeatedEntry => ""
  | .mergedSet => "'CommentedSet' object has no attribute 'add_referent'"
  | .unknownVersion minor => "(1, " ++ toString minor ++ ")"

end LinkIndex.Yaml

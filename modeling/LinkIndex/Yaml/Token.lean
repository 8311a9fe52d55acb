import LinkIndex.Yaml.Error
import LinkIndex.Yaml.Scalar.Plain

/-!
The tokens of YAML text. Blocks have no marks in the text: their starts and ends
are tokens that the indentation makes.
-/

namespace LinkIndex.Yaml

/-- A tag as it is written: a handle that stands for a beginning, and the rest. A tag written
in full has no handle. -/
structure WrittenTag where
  handle : Option String
  suffix : String
  deriving DecidableEq, Repr

inductive Token
  | version (major minor : Nat)
  | tagHandle (handle start : String)
  | otherDirective
  | documentStart
  | documentEnd
  | blockSequenceStart
  | blockMappingStart
  | blockEnd
  | flowSequenceStart
  | flowSequenceEnd
  | flowMappingStart
  | flowMappingEnd
  | blockEntry
  | flowEntry
  | key
  | value
  | aliasTo (name : String)
  | anchor (name : String)
  | tag (tag : WrittenTag)
  | scalar (plain : Bool) (text : String)
  /-- No token, but why there is none. -/
  | refused (error : Error)
  deriving DecidableEq, Repr

end LinkIndex.Yaml

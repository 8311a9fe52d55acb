/-!
Examples of command lines, each with what it does, below one another.
-/

namespace LinkIndex

structure Example where
  command : String
  description : String
  deriving DecidableEq, Repr

/-- An example on a line of its own, its description at a given column. -/
def Example.line (width : Nat) (e : Example) : String :=
  "  " ++ e.command ++ String.ofList (List.replicate (width - e.command.length) ' ') ++ "  # " ++
    e.description

/-- Examples below one another, with their descriptions in line. -/
def formatExamples (examples : List Example) : String :=
  let width := (examples.map (·.command.length)).foldl max 0
  String.intercalate "\n" (examples.map (Example.line width))

end LinkIndex

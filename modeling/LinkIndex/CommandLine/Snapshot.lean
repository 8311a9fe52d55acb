import LinkIndex.CommandLine

/-!
Which parts of a disk a call of the program looks at, so that no more than these need
be read before it runs.
-/

namespace LinkIndex.CommandLine

/-- The files and directories that a call names: what it scans, and its configuration file. -/
def namedPaths (args : List String) : List String :=
  match arguments program.options false args with
  | .error _ => []
  | .ok (given, rest) =>
    let config := (lastValue? given "--config").toList
    match rest with
    | "scan" :: more =>
      match arguments scanCommand.options true more with
      | .ok (_, []) => "." :: config
      | .ok (_, paths) => paths ++ config
      | .error _ => config
    | _ => config

/-- The configuration files that may count where the search starts at a directory. -/
def configPaths (environment : Environment.Variables) (cwd : Location) : List String :=
  (Environment.value? environment ConfigFile.variableName).toList ++
    (ConfigFile.candidates cwd).map Location.text

/-- Whether the bytes of a file with this name matter. -/
def isRead (name : String) : Bool :=
  Corpus.isDocument name || name = ConfigFile.fileName

/-- Variables from the text in which they are separated by zeros. -/
def variablesOfText (text : List Char) : Environment.Variables :=
  (Text.cutAt (·.toNat = 0) text).filterMap fun entry =>
    let name := entry.takeWhile (· ≠ '=')
    match entry.drop name.length with
    | [] => none
    | _ :: value => some (String.ofList name, String.ofList value)

end LinkIndex.CommandLine

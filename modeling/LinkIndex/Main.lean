import LinkIndex.CommandLine.Snapshot
import Std.Time.Format

/-!
The program. Everything that a call depends on is read first; then the call is run,
and what it writes is written.
-/

namespace LinkIndex.Main

open LinkIndex.CommandLine

/-- The location of a path on the disk at hand. -/
def locationOf (path : String) : IO Location := do
  return (Path.ofString (← IO.FS.realPath path).toString).resolve []

/-- What lies at a path and below it. Bytes are read of the files that matter, and of the one that
the path itself names. -/
partial def snapshot (path : String) (l : Location) (isNamed : Bool) :
    IO (List (Location × Content)) := do
  let top ← IO.FS.realPath path
  match (← top.metadata).type with
  | .dir =>
    let mut entries : List (Location × Content) := [(l, .directory)]
    for entry in ← top.readDir do
      let below := l ++ [entry.fileName]
      match (← entry.path.symlinkMetadata).type with
      | .symlink => pure ()
      | _ => entries := entries ++ (← snapshot entry.path.toString below false)
    return entries
  | .file =>
    let bytes ← if isNamed || isRead (Corpus.nameOf l) then
      (·.toList) <$> IO.FS.readBinFile top
    else pure []
    return [(l, .file bytes)]
  | _ => return []

/-- What lies at a path, if anything does. -/
def snapshotIfThere (path : String) : IO (List (Location × Content)) := do
  try
    snapshot path (← locationOf path) true
  catch _ => return []

def environment : IO Environment.Variables := do
  try
    let bytes ← IO.FS.readBinFile "/proc/self/environ"
    match Utf8.decode bytes.toList with
    | .ok text => return variablesOfText text
    | .error _ => return []
  catch _ => return []

def timeText : IO String := do
  let now ← Std.Time.Timestamp.now
  return (Std.Time.DateTime.ofTimestampWithZone now .UTC).format "uuuu-MM-dd'T'HH:mm:ss.SSSSSS'Z'"

/-- The word for a call that broke off. -/
def failureText : Failure → String
  | .settings e => e.message
  | .scan (.name e) => e.message
  | .scan (.read e) => e.message
  | .markup e => e.message

end LinkIndex.Main

open LinkIndex LinkIndex.CommandLine in
/-- Runs the program with the arguments of its call. -/
def main (args : List String) : IO UInt32 := do
  let cwd ← LinkIndex.Main.locationOf (← IO.currentDir).toString
  let environment ← LinkIndex.Main.environment
  let paths := namedPaths args ++ configPaths environment cwd
  let entries ← paths.flatMapM LinkIndex.Main.snapshotIfThere
  let surroundings : Settings.Surroundings :=
    { disk := ⟨entries ++ [(cwd, .directory)]⟩, cwd, environment }
  let result := run surroundings args
  (← IO.getStdout).putStr result.output
  let stderr ← IO.getStderr
  stderr.putStr (result.errorOutput (← LinkIndex.Main.timeText))
  match result.failure with
  | some failure => stderr.putStrLn (LinkIndex.Main.failureText failure)
  | none => pure ()
  return UInt32.ofNat result.code

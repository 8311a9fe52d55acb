import LinkIndex.Disk

/-!
Finding the configuration file. The environment may name one; else it is the one in
the nearest directory that has one, going up from where the search starts.
-/

namespace LinkIndex.ConfigFile

def fileName : String := "mdlinks.toml"

def variableName : String := "MDLINKS_CONFIG"

/-- The locations of the configuration files of a directory and of those above it, the nearest
one first. -/
def candidates (start : Location) : List Location :=
  (List.range (start.length + 1)).map fun up => start.take (start.length - up) ++ [fileName]

def nearest? (disk : Disk) (start : Location) : Option Location :=
  (candidates start).find? disk.isFile

/-- The configuration file for a search that starts at `start`. A file that the environment names
is the only one that counts, and if it is no file there is none. -/
def find? (disk : Disk) (cwd : Location) (named : Option String) (start : Location) :
    Option Path :=
  match named.filter (· ≠ "") with
  | some text =>
    let path := Path.ofString text
    if disk.hasFile cwd path then some path else none
  | none => (nearest? disk start).map Path.ofLocation

end LinkIndex.ConfigFile

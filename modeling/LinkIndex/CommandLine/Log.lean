import LinkIndex.Document
import LinkIndex.Json.Printer

/-!
Notices as lines of a log: for the eye, or as JSON.
-/

namespace LinkIndex

/-- The part of the program that a notice comes from. -/
def Notice.logger : Notice → String
  | .overwritten _ => "mdlinks.services.store"
  | .notLoaded _ => "mdlinks.services.scan"
  | _ => "mdlinks.services.extractor"

def Severity.name : Severity → String
  | .debug => "debug"
  | .warning => "warning"

def Notice.isLogged (verbose : Bool) (n : Notice) : Bool :=
  verbose || n.isWarning

namespace CommandLine

def padded (width : Nat) (text : String) : String :=
  text ++ String.ofList (List.replicate (width - text.length) ' ')

def consoleLine (time : String) (n : Notice) : String :=
  time ++ " [" ++ padded 9 n.severity.name ++ "] " ++ padded 30 n.message ++ " [" ++ n.logger ++ "]\n"

def jsonLine (time : String) (n : Notice) : String :=
  (Json.obj [("event", .str n.message), ("level", .str n.severity.name), ("logger", .str n.logger),
    ("timestamp", .str time)]).inline ++ "\n"

def logLine (asJson : Bool) (time : String) (n : Notice) : String :=
  if asJson then jsonLine time n else consoleLine time n

end CommandLine

end LinkIndex

import LinkIndex.CommandLine.Suggestion
import LinkIndex.Text.Blank
import LinkIndex.Text.Quoted

/-!
The arguments of a command. An option has a long name behind two hyphens and may
have a short one of a single letter; short ones may be written together. The value
of an option stands behind it, or is attached to it. Two hyphens alone end the
options.
-/

namespace LinkIndex.CommandLine

structure Switchable where
  long : String
  short : Option Char := none
  /-- What the value of the option is called; an option without a value is on or off. -/
  value : Option String := none
  help : String
  deriving DecidableEq, Repr

/-- An option that was given, by its long name, and its value. -/
structure Given where
  name : String
  value : Option String := none
  deriving DecidableEq, Repr

inductive UsageFault
  | noSuchOption (name : String) (similar : List String)
  | valueMissing (name : String)
  | valueNotTaken (name : String)
  | noSuchCommand (name : String) (similar : List String)
  | noSuchPath (text : String)
  deriving DecidableEq, Repr

/-- The question whether one of the names was meant. -/
def suggestion : List String → String
  | [] => ""
  | [name] => " Did you mean " ++ quoted name ++ "?"
  | names => " (Possible options: " ++ String.intercalate ", " (names.map quoted) ++ ")"

namespace UsageFault

def message : UsageFault → String
  | .noSuchOption name similar => "No such option " ++ quoted name ++ "." ++ suggestion similar
  | .valueMissing name => "Option " ++ quoted name ++ " requires an argument."
  | .valueNotTaken name => "Option " ++ quoted name ++ " does not take a value."
  | .noSuchCommand name similar => "No such command " ++ quoted name ++ "." ++ suggestion similar
  | .noSuchPath text =>
    "Invalid value for '[PATHS]...': Path " ++ quoted text ++ " does not exist."

def showsUsage : UsageFault → Bool
  | .valueMissing _ => false
  | .valueNotTaken _ => false
  | _ => true

end UsageFault

/-- What has been read, and the arguments behind it. -/
abbrev Taken := List Given × List String

/-- Options by their letters, written together. One that takes a value takes the letters behind
it, or else the next argument. -/
def shortOptions (options : List Switchable) : List Char → List String → Except UsageFault Taken
  | [], rest => .ok ([], rest)
  | letter :: more, rest =>
    match options.find? (·.short = some letter) with
    | none => .error (.noSuchOption (String.ofList ['-', letter]) [])
    | some option =>
      match option.value, more, rest with
      | none, more, rest =>
        match shortOptions options more rest with
        | .ok (given, rest) => .ok (⟨option.long, none⟩ :: given, rest)
        | .error fault => .error fault
      | some _, [], [] => .error (.valueMissing (String.ofList ['-', letter]))
      | some _, [], value :: rest => .ok ([⟨option.long, some value⟩], rest)
      | some _, more, rest => .ok ([⟨option.long, some (String.ofList more)⟩], rest)

/-- An option by its long name, with the value attached to it, if any. -/
def longOption (options : List Switchable) (name : String) (attached : Option String)
    (rest : List String) : Except UsageFault Taken :=
  match options.find? (·.long = name) with
  | none => .error (.noSuchOption name (similar name (options.map (·.long))))
  | some option =>
    match option.value, attached, rest with
    | none, none, rest => .ok ([⟨name, none⟩], rest)
    | none, some _, _ => .error (.valueNotTaken name)
    | some _, some value, rest => .ok ([⟨name, some value⟩], rest)
    | some _, none, value :: rest => .ok ([⟨name, some value⟩], rest)
    | some _, none, [] => .error (.valueMissing name)

/-- A long name, and the value attached to it by an equals sign. -/
def splitAttached (arg : List Char) : String × Option String :=
  let name := arg.takeWhile (· ≠ '=')
  match arg.drop name.length with
  | [] => (String.ofList name, none)
  | _ :: value => (String.ofList name, some (String.ofList value))

/-- The options of an argument; none where it is no option. -/
def optionOf? (options : List Switchable) (arg : String) (rest : List String) :
    Option (Except UsageFault Taken) :=
  match arg.toList with
  | '-' :: '-' :: _ =>
    let (name, attached) := splitAttached arg.toList
    some (longOption options name attached rest)
  | '-' :: letter :: more => some (shortOptions options (letter :: more) rest)
  | _ => none

/-- Reads arguments, as far as the fuel goes. With `mixed`, options may stand behind other
arguments. -/
def readArguments (options : List Switchable) (mixed : Bool) :
    Nat → List String → Except UsageFault Taken
  | 0, args => .ok ([], args)
  | _, [] => .ok ([], [])
  | fuel + 1, arg :: rest =>
    if arg = "--" then .ok ([], rest)
    else match optionOf? options arg rest with
      | some (.error fault) => .error fault
      | some (.ok (given, rest)) =>
        match readArguments options mixed fuel rest with
        | .ok (more, others) => .ok (given ++ more, others)
        | .error fault => .error fault
      | none =>
        if mixed then
          match readArguments options mixed fuel rest with
          | .ok (given, others) => .ok (given, arg :: others)
          | .error fault => .error fault
        else .ok ([], arg :: rest)

/-- Reads the arguments of a command: the options that are given, in order, and the other
arguments. -/
def arguments (options : List Switchable) (mixed : Bool) (args : List String) :
    Except UsageFault Taken :=
  readArguments options mixed args.length args

def isGiven (given : List Given) (name : String) : Bool :=
  given.any (·.name = name)

def lastValue? (given : List Given) (name : String) : Option String :=
  (given.filter (·.name = name)).getLast?.bind (·.value)

/-- The first of the given options that is one of some names. -/
def firstOf? (given : List Given) (names : List String) : Option String :=
  (given.map (·.name)).find? names.contains

end LinkIndex.CommandLine

import LinkIndex.CommandLine.Arguments
import LinkIndex.Report.Examples

/-!
The commands of the program, with their options, and the texts that describe them.
-/

namespace LinkIndex.CommandLine

structure Command where
  /-- The words that call the command. -/
  call : String
  /-- What stands behind them. -/
  operands : String
  /-- What the command does, in lines of their own. -/
  description : List String
  options : List Switchable
  /-- The commands that it leads to, each with what it does. -/
  commands : List (String × String) := []

def helpOption : Switchable where
  long := "--help"
  help := "Show this message and exit."

def program : Command where
  call := "mdlinks"
  operands := "[OPTIONS] [COMMAND] [ARGS]..."
  description := ["mdlinks — heading and link extraction for markdown and MDX."]
  options :=
    [{ long := "--version", help := "Show the version and exit." },
     { long := "--json", help := "Structured JSON output." },
     { long := "--quiet", short := some 'q', help := "Minimal output." },
     { long := "--verbose", short := some 'v', help := "Detailed output with debug info." },
     { long := "--log-json", help := "Structured JSON log output to stderr." },
     { long := "--config", short := some 'c', value := some "TEXT",
       help := "Override config file path." },
     helpOption]
  commands := [("scan", "Extract headings, internal links and external links from PATHS.")]

def scanCommand : Command where
  call := "mdlinks scan"
  operands := "[OPTIONS] [PATHS]..."
  description :=
    ["Extract headings, internal links and external links from PATHS.", "",
     "PATHS are .md, .mdx and .mdast.json files or directories to search (default:",
     "the current directory). MDX components such as LinkCard are only seen in",
     ".mdast.json trees exported by remark."]
  options :=
    [{ long := "--ignore-draft", help := "Skip documents with draft frontmatter." },
     { long := "--use-slug", help := "Key documents by their frontmatter slug." },
     { long := "--heading-slugs", help := "Generate slugs for headings without an explicit id." },
     { long := "--examples", help := "Show usage examples." },
     helpOption]

def scanExamples : List Example :=
  [⟨"mdlinks scan docs/", "Scan one directory"⟩,
   ⟨"mdlinks scan src/content --ignore-draft --use-slug", "Astro content, keyed by slug"⟩,
   ⟨"mdlinks scan build/mdast/", "Scan mdast JSON exported from MDX"⟩,
   ⟨"mdlinks --json scan README.md docs/ --heading-slugs", "JSON with heading slugs"⟩]

/-- The names of an option and of its value. -/
def Switchable.term (o : Switchable) : String :=
  (o.short.elim "" fun c => String.ofList ['-', c] ++ ", ") ++ o.long ++
    o.value.elim "" (" " ++ ·)

/-- Terms with their descriptions in line. -/
def definitionLines (entries : List (String × String)) : List String :=
  let width := (entries.map (·.1.length)).foldl max 0
  entries.map fun (term, description) =>
    "  " ++ term ++ String.ofList (List.replicate (width - term.length) ' ') ++ "  " ++ description

namespace Command

def usage (c : Command) : String :=
  "Usage: " ++ c.call ++ " " ++ c.operands

def helpLines (c : Command) : List String :=
  let indented := c.description.map fun line => if line = "" then "" else "  " ++ line
  let options := definitionLines (c.options.map fun o => (o.term, o.help))
  let commands := if c.commands = [] then []
    else "" :: "Commands:" :: definitionLines c.commands
  c.usage :: "" :: indented ++ "" :: "Options:" :: options ++ commands

/-- The text that describes a command. -/
def help (c : Command) : String :=
  String.join (c.helpLines.map (· ++ "\n"))

def faultText (c : Command) (fault : UsageFault) : String :=
  (if fault.showsUsage then
    c.usage ++ "\nTry '" ++ c.call ++ " " ++ helpOption.long ++ "' for help.\n\n" else "") ++
    "Error: " ++ fault.message ++ "\n"

end Command

def versionText : String := "mdlinks, version 0.1.0\n"

/-- The examples of scans below their title. -/
def examplesText : String :=
  "Examples for '" ++ scanCommand.call ++ "':\n\n" ++ formatExamples scanExamples ++ "\n"

end LinkIndex.CommandLine

import Rendezvous.CommandLine.Invocation

/-! Pages of help. Names stand in one column and what they mean in the next; the long page of
a topic that has more to say puts each meaning below its name. -/
namespace Rendezvous.CommandLine

/-- The name of this program. -/
def programName : String := "testkit"

def versionText : String := programName ++ " 0.1.0\n"

/-- A name and what it means. -/
structure Entry where
  name : String
  meaning : String
  /-- The meaning at length: paragraphs, in each the lines. -/
  paragraphs : List (List String) := [[meaning]]

namespace Entry

/-- The name, then blanks up to a width. -/
def padded (width : Nat) (name : String) : String :=
  name ++ String.ofList (List.replicate (width - name.length) ' ')

def width (entries : List Entry) : Nat :=
  (entries.map fun entry => entry.name.length).foldl max 0

/-- Names and meanings in two columns. -/
def columns (entries : List Entry) : String :=
  String.join (entries.map fun entry =>
    "  " ++ padded (width entries) entry.name ++ "  " ++ entry.meaning ++ "\n")

/-- How far a meaning below its name is set in. -/
def margin : String := padded 10 ""

def paragraph (lines : List String) : String :=
  String.intercalate "\n" (lines.map fun line => margin ++ line)

/-- Meanings below their names. -/
def stacked (entries : List Entry) : String :=
  String.intercalate "\n" (entries.map fun entry =>
    "  " ++ entry.name ++ "\n" ++
      String.intercalate "\n\n" (entry.paragraphs.map paragraph) ++ "\n")

end Entry

namespace Topic

def about : Topic → String
  | .program => "Bootstrap test automation daemons"
  | .command .bootstrap =>
    "Set up the test environment, report the daemon launch, then tear it down"
  | .command .token => "Print the connection token of this process"
  | .command .coverage => "Emit coverage report lines for a coverage JSON file"
  | .command .mockList => "Print the module -> source map of a mock configuration file"
  | .help => "Print this message or the help of the given subcommand(s)"

/-- What follows the name of the program. -/
def usage : Topic → String
  | .program => "[OPTIONS] <COMMAND>"
  | .command .coverage => "coverage [OPTIONS] [INPUT]"
  | .command .mockList => "mock-list [OPTIONS] <PATH>"
  | .command verb => verb.name ++ " [OPTIONS]"
  | .help => "help [COMMAND]..."

def commands : Topic → List Entry
  | .program =>
    (Verb.all.map fun verb => ⟨verb.name, about (.command verb), []⟩) ++ [⟨"help", about .help, []⟩]
  | _ => []

def positions : Topic → List Entry
  | .command .coverage =>
    [{ name := "[INPUT]", meaning := "Coverage JSON; reports an error line when omitted" }]
  | .command .mockList => [{ name := "<PATH>", meaning := "Path to mock-config.json" }]
  | .help => [{ name := "[COMMAND]...", meaning := "Print help for the subcommand(s)" }]
  | _ => []

/-- Whether the long page says more than the short one. -/
def hasMore : Topic → Bool
  | .command .bootstrap => true
  | _ => false

def familyEntry : Entry where
  name := "    --family <FAMILY>"
  meaning := "Daemon family to connect to [default: ui] [possible values: ui, perf]"
  paragraphs := [["Daemon family to connect to", "", "[default: ui]"],
    ["Possible values:", "- ui:   UI automation daemon", "- perf: Performance test daemon"]]

def chunkLengthEntry : Entry where
  name := "    --chunk-len <CHUNK_LEN>"
  meaning := "Characters per report line (default from config)"

def configEntry : Entry where
  name := "    --config <CONFIG>"
  meaning := "Configuration file (default: platform config dir)"

def logFileEntry : Entry where
  name := "    --log-file"
  meaning := "Also write logs to the data directory"

def versionEntry : Entry where
  name := "-V, --version"
  meaning := "Print version"

/-- Tells of the other page if there is one. -/
def helpEntry (topic : Topic) (long : Bool) : Entry where
  name := "-h, --help"
  meaning :=
    if !topic.hasMore then "Print help"
    else if long then "Print help (see a summary with '-h')"
    else "Print help (see more with '--help')"

def options (topic : Topic) (long : Bool) : List Entry :=
  let help := topic.helpEntry long
  match topic with
  | .program => [configEntry, logFileEntry, help, versionEntry]
  | .command .bootstrap => [configEntry, familyEntry, logFileEntry, help]
  | .command .coverage => [chunkLengthEntry, configEntry, logFileEntry, help]
  | .command _ => [configEntry, logFileEntry, help]
  | .help => []

end Topic

/-- A part of a page under its title; nothing if it is empty. -/
def part (title : String) (layout : List Entry → String) (entries : List Entry) : String :=
  if entries.isEmpty then "" else "\n" ++ title ++ ":\n" ++ layout entries

def Page.text (page : Page) : String :=
  let topic := page.topic
  let layout := if page.long && topic.hasMore then Entry.stacked else Entry.columns
  topic.about ++ "\n\nUsage: " ++ programName ++ " " ++ topic.usage ++ "\n" ++
    part "Commands" layout topic.commands ++
    part "Arguments" layout topic.positions ++
    part "Options" layout (topic.options page.long)

end Rendezvous.CommandLine

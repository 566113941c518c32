import Rendezvous.CommandLine.Run
import Rendezvous.Local.Process

/-! The program. It takes a picture of what it may need to see, lets the run decide on it, and
shows what came out. Commands are carried out by the library's own shell, on the picture. -/
namespace Rendezvous.CommandLine

/-- What stands at a path, if it can be seen. -/
def look (path : String) : IO (Option Local.Entry) := do
  try
    if ← (← IO.FS.realPath path).isDir then return some .directory
    return some (.file (← IO.FS.readBinFile path).toList)
  catch _ => return none

/-- The paths that arguments may name. -/
def namedPaths (arguments : List String) : List String :=
  arguments.flatMap fun argument =>
    argument :: match Shape.ofText argument with
      | .word _ (some value) => [value]
      | _ => []

/-- A picture of some paths. -/
def picture (paths : List String) : IO Local.Files :=
  paths.foldlM (fun files path => do
    match ← look path with
    | some entry => return files.put path entry
    | none => return files) {}

/-- What the program finds when it starts. -/
def Site.find (arguments : List String) : IO Site := do
  let environ := Local.Variables.ofBlock (← IO.FS.readBinFile "/proc/self/environ").toList
  let identity := (Local.identity? (← IO.FS.readFile "/proc/self/status")).getD ⟨0, 0⟩
  let homes : Local.Homes := ⟨(environ.text? "HOME").getD "/",
    environ.text? "XDG_CONFIG_HOME", environ.text? "XDG_DATA_HOME"⟩
  let files ← picture (Local.Locations.configFile homes ::
    Local.Locations.logDirectory homes :: Local.Locations.logFile homes :: namedPaths arguments)
  let searched := (environ.text? "PATH").getD ""
  let shell := if searched = "" then none else some Shell.foundShell
  return { homes, files, environ, identity, shell }

/-- Makes the log file if the run has opened it. -/
def keepLog (site : Site) (outcome : Outcome) : IO Unit := do
  let path := Local.Locations.logFile site.homes
  if outcome.trace.files.isThere path ∧ ¬ site.files.isThere path then
    IO.FS.createDirAll (Local.Locations.logDirectory site.homes)
    IO.FS.writeFile path ""

end Rendezvous.CommandLine

open Rendezvous CommandLine in
def main (arguments : List String) : IO UInt32 := do
  let site ← Site.find arguments
  let outcome := site.run arguments
  keepLog site outcome
  (← IO.getStdout).putStr outcome.output
  (← IO.getStderr).putStr outcome.ending.message
  return outcome.ending.exitCode.toUInt32

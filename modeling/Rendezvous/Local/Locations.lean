import Rendezvous.Local.Files
import Rendezvous.Config.Overlay
import Rendezvous.Report.MockList

/-! Where the configuration and the logs of a user live, and what is done there. -/
namespace Rendezvous.Local

/-- The directories that the user's environment names. -/
structure Homes where
  home : String
  configHome : Option String := none
  dataHome : Option String := none

namespace Locations

/-- The directory name that is this program's own. -/
def ownName : String := "testkit"

/-- Joins as text: a slash is put in unless the base ends with one or is empty. -/
def join (base name : String) : String :=
  if base = "" ∨ base.toList.getLast? = some '/' then base ++ name else base ++ "/" ++ name

/-- A directory given by the environment counts only if it is absolute. -/
def chosen (given : Option String) (fallback : String) : String :=
  match given with
  | some path => if path.toList.head? = some '/' then path else fallback
  | none => fallback

def configDirectory (homes : Homes) : String :=
  join (chosen homes.configHome (join homes.home ".config")) ownName

def configFile (homes : Homes) : String := join (configDirectory homes) "config.toml"

def logDirectory (homes : Homes) : String :=
  join (join (chosen homes.dataHome (join (join homes.home ".local") "share")) ownName) "logs"

def logFile (homes : Homes) : String := join (logDirectory homes) "testkit.log"

end Locations

/-- Makes the log directory unless something of its name is there. -/
def ensureLogDirectory (homes : Homes) (files : Files) : Except PathFault Files :=
  if files.isThere (Locations.logDirectory homes) then .ok files
  else files.makeDirectory (Locations.logDirectory homes)

/-- The configuration in a file. -/
def loadConfigFrom (files : Files) (path : String) : Except Error Config := do
  Config.ofText (← files.readText path)

/-- The mock list in a file. -/
def loadMockList (files : Files) (path : String) : Except Error (List (String × String)) := do
  Report.MockList.ofText (← files.readText path)

/-- The configuration in the user's own file, or the default if there is none. -/
def loadConfig (homes : Homes) (files : Files) : Except Error Config :=
  let path := Locations.configFile homes
  if files.isThere path then loadConfigFrom files path else .ok {}

end Rendezvous.Local

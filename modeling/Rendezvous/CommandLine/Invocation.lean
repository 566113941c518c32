import Rendezvous.Family

/-! What the program can be asked to do, and what comes up instead when its arguments ask for
help, for the version, or for nothing that it knows. -/
namespace Rendezvous.CommandLine

/-- The commands by name. -/
inductive Verb where
  | bootstrap
  | token
  | coverage
  | mockList
  deriving DecidableEq, Repr

namespace Verb

/-- All commands, in the order in which help lists them. -/
def all : List Verb := [.bootstrap, .token, .coverage, .mockList]

def name : Verb → String
  | .bootstrap => "bootstrap"
  | .token => "token"
  | .coverage => "coverage"
  | .mockList => "mock-list"

def find? (name : String) : Option Verb := all.find? fun verb => verb.name = name

@[simp] theorem find?_name (verb : Verb) : find? verb.name = some verb := by
  cases verb <;> decide

end Verb

inductive Command where
  /-- Set up one family, report its launch and tear it down. -/
  | bootstrap (family : Family)
  /-- Print the token of this process. -/
  | token
  /-- Report the coverage in a file, or that there is none. -/
  | coverage (input : Option String) (chunkLength : Option UInt64)
  /-- Print the mocks that a file lists. -/
  | mockList (path : String)
  deriving DecidableEq, Repr

structure Invocation where
  /-- A configuration file in the place of the user's own. -/
  config : Option String
  logFile : Bool
  command : Command
  deriving DecidableEq, Repr

/-- What a page of help is about. -/
inductive Topic where
  | program
  | command (verb : Verb)
  | help
  deriving DecidableEq, Repr

structure Page where
  topic : Topic
  /-- Whether everything is said that there is to say. -/
  long : Bool
  deriving DecidableEq, Repr

/-- Why arguments are refused. -/
inductive Misuse where
  | unknownArgument (text : String)
  | unknownCommand (text : String)
  | noCommand
  | noPath
  | noValue (option : String)
  | unwantedValue (option : String)
  | badValue (option value : String)
  | repeated (option : String)
  deriving DecidableEq, Repr

def Misuse.message : Misuse → String
  | .unknownArgument text => "unexpected argument '" ++ text ++ "' found"
  | .unknownCommand text => "unrecognized subcommand '" ++ text ++ "'"
  | .noCommand => "a subcommand is required but one was not provided"
  | .noPath => "the required argument <PATH> was not provided"
  | .noValue option => "a value is required for '" ++ option ++ "' but none was supplied"
  | .unwantedValue option => "no value is accepted for '" ++ option ++ "'"
  | .badValue option value => "invalid value '" ++ value ++ "' for '" ++ option ++ "'"
  | .repeated option => "the argument '" ++ option ++ "' cannot be used multiple times"

/-- Why the reading of the arguments ended without an invocation. -/
inductive Stop where
  | page (page : Page)
  | version
  | misuse (fault : Misuse)
  deriving DecidableEq, Repr

end Rendezvous.CommandLine

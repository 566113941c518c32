import Rendezvous.Text.Utf8
import Rendezvous.Error

/-! A file tree as a list of what is in it. Whatever lies on the way to an entry is a
directory. Relative paths start in the working directory, absolute ones at the root, which
is kept as a directory of its own name. -/
namespace Rendezvous.Local

open Text.Utf8 (Bytes)

inductive Entry where
  | file (content : Bytes)
  | directory
  deriving DecidableEq, Repr

/-- Why the system refuses a path. -/
inductive PathFault where
  | notFound
  | denied
  | notDirectory
  | isDirectory
  | holdsNul
  deriving DecidableEq, Repr

def PathFault.message : PathFault → String
  | .notFound => "No such file or directory (os error 2)"
  | .denied => "Permission denied (os error 13)"
  | .notDirectory => "Not a directory (os error 20)"
  | .isDirectory => "Is a directory (os error 21)"
  | .holdsNul => "file name contained an unexpected NUL byte"

/-- Entries by the names on the way to them, the latest first. -/
structure Files where
  entries : List (List String × Entry) := []
  deriving Repr

namespace Files

/-- The name under which the root stands. -/
def root : String := "/"

/-- What stands at a place: an entry, or the directory on the way to one. -/
def at? (files : Files) (place : List String) : Option Entry :=
  if place = [] ∨ place = [root] then some .directory
  else
    match files.entries.lookup place with
    | some entry => some entry
    | none =>
      if files.entries.any fun entry => place.isPrefixOf entry.1 then some .directory else none

/-- The parts of a text between its slashes. -/
def parts : List Char → List String
  | [] => [""]
  | c :: rest =>
    if c = '/' then "" :: parts rest
    else match parts rest with
      | [] => [String.singleton c]
      | part :: others => (String.singleton c ++ part) :: others

/-- Goes from a place along the parts of a path. Every place that is left, or that an empty
part or a dot stands for, has to be a directory. -/
def walk (files : Files) (place : List String) : List String → Except PathFault (List String)
  | [] => .ok place
  | part :: rest =>
    match files.at? place with
    | none => .error .notFound
    | some (.file _) => .error .notDirectory
    | some .directory =>
      if part = "" ∨ part = "." then walk files place rest
      else if part = ".." then walk files place.dropLast rest
      else walk files (place ++ [part]) rest

/-- The place that a path leads to; nothing needs to be there yet. -/
def resolve (files : Files) (path : String) : Except PathFault (List String) :=
  if path = "" then .error .notFound
  else if path.toList.contains '\x00' then .error .holdsNul
  else match path.toList with
    | '/' :: rest => walk files [root] (parts rest)
    | text => walk files [] (parts text)

/-- What a path leads to. -/
def find (files : Files) (path : String) : Except PathFault Entry := do
  let place ← files.resolve path
  match files.at? place with
  | some entry => return entry
  | none => throw .notFound

def isThere (files : Files) (path : String) : Bool := (files.find path).isOk

def isDirectory (files : Files) (path : String) : Bool :=
  match files.find path with
  | .ok .directory => true
  | _ => false

def read (files : Files) (path : String) : Except PathFault Bytes := do
  match ← files.find path with
  | .file content => return content
  | .directory => throw .isDirectory

/-- Why a file that is not UTF-8 cannot be read as a text. -/
def notText : String := "stream did not contain valid UTF-8"

/-- The text of a file. -/
def readText (files : Files) (path : String) : Except Error String :=
  match files.read path with
  | .error fault => .error (.fileRead path fault.message)
  | .ok content =>
    match Text.Utf8.decode? content with
    | none => .error (.fileRead path notText)
    | some text => .ok text

def add (files : Files) (place : List String) (entry : Entry) : Files :=
  ⟨(place, entry) :: files.entries⟩

/-- Makes a directory, and those on the way to it. -/
def makeDirectory (files : Files) (path : String) : Except PathFault Files := do
  let place ← match path.toList with
    | '/' :: rest => make [root] (parts rest)
    | text => make [] (parts text)
  return files.add place .directory
where
  make (place : List String) : List String → Except PathFault (List String)
    | [] => .ok place
    | part :: rest =>
      match files.at? place with
      | some (.file _) => .error .notDirectory
      | _ =>
        if part = "" ∨ part = "." then make place rest
        else if part = ".." then make place.dropLast rest
        else make (place ++ [part]) rest

/-- Puts an entry where a path leads, with every directory that it passes on the way. -/
def put (files : Files) (path : String) (entry : Entry) : Files :=
  let (place, files) := match path.toList with
    | '/' :: rest => pass [root] (parts rest) files
    | text => pass [] (parts text) files
  files.add place entry
where
  pass (place : List String) : List String → Files → List String × Files
    | [], files => (place, files)
    | part :: rest, files =>
      let files := files.add place .directory
      if part = "" ∨ part = "." then pass place rest files
      else if part = ".." then pass place.dropLast rest files
      else pass (place ++ [part]) rest files

/-- Opens a file for writing at its end, making it if it is not there. -/
def openForAppending (files : Files) (path : String) : Except PathFault Files := do
  let place ← files.resolve path
  match files.at? place with
  | some .directory => throw .isDirectory
  | some (.file _) => return files
  | none =>
    match files.at? place.dropLast with
    | some .directory => return files.add place (.file [])
    | some (.file _) => throw .notDirectory
    | none => throw .notFound

/-- Opens a file for writing from its start, making it if it is not there. -/
def openForWriting (files : Files) (path : String) : Except PathFault Files := do
  let opened ← files.openForAppending path
  return opened.add (← opened.resolve path) (.file [])

/-- Adds to the end of a file, making it if it is not there. -/
def append (files : Files) (path : String) (content : Bytes) : Except PathFault Files := do
  let opened ← files.openForAppending path
  return opened.add (← opened.resolve path) (.file ((← opened.read path) ++ content))

/-- Takes a file or directory away, with all that is in it. -/
def remove (files : Files) (path : String) : Except PathFault Files := do
  let place ← files.resolve path
  match files.at? place with
  | some _ => return ⟨files.entries.filter fun entry => !place.isPrefixOf entry.1⟩
  | none => throw .notFound

end Files
end Rendezvous.Local

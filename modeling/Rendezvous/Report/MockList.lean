import Rendezvous.Json.Record
import Rendezvous.Error

/-! Mock lists: for each module the source that replaces it. Of several entries for one
module the last one counts, and every module that counts needs a source. -/
namespace Rendezvous.Report.MockList

/-- An entry that may still lack its only field. The source itself may be missing or null. -/
structure Draft where
  source : Option (Option Json.Value) := none

def fields : List (Json.Field Draft) := [
  ⟨"source", (·.source.isSome), fun depth _ text => do
    let (source, rest) ← Json.readOptional depth text
    return (⟨some source⟩, rest)⟩]

/-- The source of an entry; a missing field is an empty one. -/
def Draft.complete (draft : Draft) : Option (Option Json.Value) := some (draft.source.getD none)

/-- The entries of a text in their order, repeated modules among them. -/
def readEntries (text : String) : Except Json.Fault (List (String × Option Json.Value)) :=
  match Json.skipBlanks text.toList with
  | [] => .error Json.endBeforeValue
  | c :: rest =>
    if c = '\x7b' then do
      let (entries, rest) ← Json.members (fun module found text => do
        let (source, rest) ←
          Json.record fields {} Draft.complete (Json.depthLimit - 1) (← Json.colon text)
        return ((module, source) :: found, rest)) (rest.length + 1) true [] rest
      Json.finish (entries.reverse, rest)
    else .error (Json.mistyped "an object was expected" (c :: rest))

/-- The entries that count, sorted by module. -/
def latest (entries : List (String × Option Json.Value)) : List (String × Option Json.Value) :=
  entries.foldl (fun found entry => Json.insertSorted entry.1 entry.2 found) []

def noSource (module : String) : Error := .mockList ("entry '" ++ module ++ "' has no source")

/-- A text stands for itself, any other value for its compact text. -/
def sourceText : Json.Value → String
  | .string text => text
  | value => value.compact

/-- The sources of sorted entries. -/
def sources : List (String × Option Json.Value) → Except Error (List (String × String))
  | [] => .ok []
  | (module, none) :: _ => .error (noSource module)
  | (module, some source) :: rest => do
    let rest ← sources rest
    return (module, sourceText source) :: rest

/-- Modules with their sources, sorted by module. -/
def ofText (text : String) : Except Error (List (String × String)) :=
  match readEntries text with
  | .ok entries => sources (latest entries)
  | .error fault => .error (.json fault)

end Rendezvous.Report.MockList

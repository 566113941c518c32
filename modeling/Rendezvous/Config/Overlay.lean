import Rendezvous.Config
import Rendezvous.Error
import Rendezvous.Toml.Reader

/-! Configurations read from TOML documents. Every field that a document holds is laid over
the default, every other keeps it; keys that are not known are passed over. -/
namespace Rendezvous

open Toml (Table Value)

namespace Config

/-- The parts of a section: members by name, or the fields in their order. A date stands for
a table without known members. -/
inductive Section where
  | named (members : Table)
  | ordered (items : List Value)

def Section.ofValue? : Value → Option Section
  | .table _ members => some (.named members)
  | .tables rows => some (.ordered (rows.map (.table .header)))
  | .array items => some (.ordered items)
  | .datetime _ => some (.named [])
  | _ => none

/-- A field by its name and its place in the order. -/
def Section.find? (name : String) (place : Nat) : Section → Option Value
  | .named members => members.lookup name
  | .ordered items => items[place]?

def boolean? : Value → Option Bool
  | .boolean value => some value
  | _ => none

def text? : Value → Option String
  | .string value => some value
  | _ => none

/-- An integer from zero to `last`. -/
def natural? (last : Nat) : Value → Option Nat
  | .integer value => if 0 ≤ value ∧ value ≤ last then some value.toNat else none
  | _ => none

def word32? (value : Value) : Option UInt32 := (natural? (Nat.pow 2 32 - 1) value).map UInt32.ofNat

def word64? (value : Value) : Option UInt64 := (natural? (Nat.pow 2 64 - 1) value).map UInt64.ofNat

/-- The default where there is no value; nothing where the value is of another type. -/
def overlay (read : Value → Option α) (default : α) : Option Value → Option α
  | none => some default
  | some value => read value

def bootstrap? (value : Value) : Option BootstrapConfig := do
  let found ← Section.ofValue? value
  let default : BootstrapConfig := {}
  return {
    requireTestMode := ← overlay boolean? default.requireTestMode (found.find? "require_test_mode" 0)
    testModeParameter :=
      ← overlay text? default.testModeParameter (found.find? "test_mode_parameter" 1)
    uiTimeout := ← overlay word32? default.uiTimeout (found.find? "uitest_timeout_units" 2)
    perfTimeout :=
      ← overlay word32? default.perfTimeout (found.find? "perftest_timeout_units" 3) }

def application? (value : Value) : Option ApplicationConfig := do
  let found ← Section.ofValue? value
  let default : ApplicationConfig := {}
  return {
    name := ← overlay text? default.name (found.find? "name" 0)
    area := ← overlay word32? default.area (found.find? "area" 1) }

def coverage? (value : Value) : Option CoverageConfig := do
  let found ← Section.ofValue? value
  let default : CoverageConfig := {}
  return { chunkLength := ← overlay word64? default.chunkLength (found.find? "chunk_len" 0) }

/-- The one member that a date has when it is read as a table. -/
def dateMember : String := "$__toml_private_datetime"

def parameters? : Value → Option (List (String × String))
  | .table _ members => members.mapM fun (key, value) => do return (key, ← text? value)
  | .datetime text => some [(dateMember, text)]
  | _ => none

/-- The configuration that a document describes, if all it holds is of the right type. -/
def ofDocument? (document : Table) : Option Config := do
  let default : Config := {}
  return {
    bootstrap := ← overlay bootstrap? default.bootstrap (document.lookup "bootstrap")
    application := ← overlay application? default.application (document.lookup "application")
    parameters := ← overlay parameters? default.parameters (document.lookup "parameters")
    coverage := ← overlay coverage? default.coverage (document.lookup "coverage") }

def zeroChunk : Error := .config "coverage.chunk_len must be greater than zero"

/-- Refuses chunks of no characters, once all types are known to be right. -/
def ofDocument (document : Table) : Except Error Config :=
  match ofDocument? document with
  | none => .error (.configParse "a value is of another type than its field")
  | some config => if config.coverage.chunkLength = 0 then .error zeroChunk else .ok config

def ofText (text : String) : Except Error Config :=
  match Table.ofText text with
  | none => .error (.configParse "the text is no TOML")
  | some document => ofDocument document

end Config
end Rendezvous

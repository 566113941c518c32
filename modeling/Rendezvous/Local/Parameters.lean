import Rendezvous.Text.Utf8
import Rendezvous.Unicode.UpperCase

/-! System parameters of the local host: an environment variable of the parameter's name
goes before the configured table. -/
namespace Rendezvous.Local

open Text.Utf8 (Bytes)

/-- The process environment: names with arbitrary bytes. -/
abbrev Variables := List (String × Bytes)

namespace Variables

/-- The entry of a variable as the system keeps it: name, equals sign and value. -/
def entry (name : String) (value : Bytes) : Bytes := Text.Utf8.encode name ++ 0x3D :: value

/-- The rest of a list behind a given start. -/
def behind? (start : Bytes) (bytes : Bytes) : Option Bytes :=
  if start.isPrefixOf bytes then some (bytes.drop start.length) else none

/-- The value of a variable: what stands behind its name and an equals sign in the first
entry that starts so. No variable has a name that holds NUL. -/
def find? (environ : Variables) (name : String) : Option Bytes :=
  if name.toList.contains '\x00' then none
  else environ.findSome? fun (other, value) => behind? (entry name []) (entry other value)

/-- The value of a variable that is a text. -/
def text? (environ : Variables) (name : String) : Option String :=
  (environ.find? name).bind Text.Utf8.decode?

end Variables

namespace Parameters

/-- What the names of overriding variables start with. -/
def lead : String := "TESTKIT_PARAM_"

/-- The variable that overrides a parameter: its name in upper case, underscores for dots. -/
def variableName (key : String) : String :=
  lead ++ (Unicode.UpperCase.ofString key).map fun c => if c = '.' then '_' else c

/-- The variable if it is set, else the table, else the default. -/
def get (environ : Variables) (table : List (String × String)) (key default : String) : String :=
  match environ.text? (variableName key) with
  | some value => value
  | none => (table.lookup key).getD default

end Parameters
end Rendezvous.Local

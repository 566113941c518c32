import Rendezvous.Json.Record
import Rendezvous.Host

/-! The JSON forms of tokens, application contexts and command results. -/
namespace Rendezvous

def Token.toJson (token : Token) : String := String.ofList (Json.quoted token.text)

namespace AppContext

def toJson (context : AppContext) : String :=
  Json.recordText [("application_name", Json.quoted context.applicationName),
    ("area", Json.Number.integerText context.area.toNat)]

/-- A context of which some fields may still be missing. -/
structure Draft where
  applicationName : Option String := none
  area : Option UInt32 := none

def fields : List (Json.Field Draft) := [
  ⟨"application_name", (·.applicationName.isSome), fun _ draft text => do
    let (name, rest) ← Json.readText text
    return ({ draft with applicationName := some name }, rest)⟩,
  ⟨"area", (·.area.isSome), fun _ draft text => do
    let (area, rest) ← Json.readInteger 0 (Nat.pow 2 32 - 1 : Nat) text
    return ({ draft with area := some (.ofNat area.toNat) }, rest)⟩]

def Draft.complete (draft : Draft) : Option AppContext :=
  return ⟨← draft.applicationName, ← draft.area⟩

def ofJson (text : String) : Except Json.Fault AppContext := do
  Json.finish (← Json.record fields {} Draft.complete Json.depthLimit text.toList)

end AppContext

namespace CommandResult

def toJson (result : CommandResult) : String :=
  Json.recordText [("stdResult", Json.quoted result.stdResult),
    ("exitCode", Json.Number.integerText result.exitCode.toInt)]

/-- A result of which some fields may still be missing. -/
structure Draft where
  stdResult : Option String := none
  exitCode : Option Int32 := none

def fields : List (Json.Field Draft) := [
  ⟨"stdResult", (·.stdResult.isSome), fun _ draft text => do
    let (output, rest) ← Json.readText text
    return ({ draft with stdResult := some output }, rest)⟩,
  ⟨"exitCode", (·.exitCode.isSome), fun _ draft text => do
    let (code, rest) ← Json.readInteger (-Nat.pow 2 31) (Nat.pow 2 31 - 1) text
    return ({ draft with exitCode := some (.ofInt code) }, rest)⟩]

def Draft.complete (draft : Draft) : Option CommandResult :=
  return ⟨← draft.stdResult, ← draft.exitCode⟩

def ofJson (text : String) : Except Json.Fault CommandResult := do
  Json.finish (← Json.record fields {} Draft.complete Json.depthLimit text.toList)

end CommandResult
end Rendezvous

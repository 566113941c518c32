import Rendezvous.Local.Machine
import Rendezvous.Json.Number
import Rendezvous.Text.Blank

/-! The bootstrap of one family on the local host: a setup, its launch to the end, and the
teardown, summed up for a user. -/
namespace Rendezvous.CommandLine

/-- Commands that were run when they were started, and the world that they left. -/
structure Finished (ω : Type) where
  world : ω
  replies : List Reply

/-- Runs every command to its end at once; its reply is there from then on. -/
def promptly (run : (command : String) → (timeoutUnits : UInt32) → ω → Reply × ω) :
    Executor (Finished ω) where
  start _ command timeoutUnits finished :=
    let (reply, world) := run command timeoutUnits finished.world
    (finished.replies.length, ⟨world, finished.replies ++ [reply]⟩)
  poll ticket finished := (finished.replies[ticket]?, finished)

/-- What a user is told about a bootstrap. -/
inductive Summary where
  /-- The token, what is known of the launch, and the token that the module was handed. -/
  | connected (token : Token) (launch : Session.Awaited) (scheduled : Option Token)
  | alreadySetUp
  | testModeDisabled (parameter : String)
  | capabilityUnavailable (what : WellKnown)

namespace Summary

def line (title text : String) : String := title ++ ": " ++ text ++ "\n"

/-- The output of a command is shown below its exit code if it is not blank. -/
def launchText : LaunchOutcome → String
  | .skipped => line "Launch" "no delegator, daemon must be pre-started"
  | .succeeded result =>
    let output := Text.trim result.stdResult
    line "Launch" ("exit code " ++
        String.ofList (Json.Number.integerText result.exitCode.toInt)) ++
      if output = "" then "" else "  " ++ output ++ "\n"
  | .failed reason => line "Launch failed" reason

def text : Summary → String
  | .connected token launch scheduled =>
    line "Token" token.text ++
      (match launch with
        | .ended outcome => launchText outcome
        | _ => "") ++
      match scheduled with
        | some token => line "Connection scheduled" token.text
        | none => ""
  | .alreadySetUp => "Environment already set up\n"
  | .testModeDisabled parameter =>
    line "Test mode disabled" ("parameter '" ++ parameter ++
      "' is not \"1\"; set it under [parameters] or via " ++
      Local.Parameters.variableName parameter)
  | .capabilityUnavailable what => line "Capability unavailable" what.name

end Summary

/-- What follows a setup: its launch is waited for, and the module asked what it holds. -/
def summarize (machine : Local.Machine) (executor : Executor τ) (family : Family)
    (result : CallResult) (session : Session Local.Tokens τ) :
    Except Error Summary × Session Local.Tokens τ :=
  match result with
  | .setup (.completed token _) =>
    let (launch, session) := session.await machine.host executor family
    (.ok (.connected token launch (session.outside.memory.get family)), session)
  | .setup .policyDenied =>
    (.ok (.testModeDisabled machine.config.bootstrap.testModeParameter), session)
  | .setup (.capabilityUnavailable what) => (.ok (.capabilityUnavailable what), session)
  | .setup .alreadyInitialized => (.ok .alreadySetUp, session)
  | _ => (.error (.moduleNotLoaded family.tool), session)

/-- Sets one family up and tears it down. -/
def bootstrap (machine : Local.Machine) (executor : Executor τ) (family : Family)
    (commands : τ) : Except Error Summary × Session Local.Tokens τ :=
  let hooks := Hooks.install machine.resolver machine.config.bootstrap
  let (result, session) :=
    (Session.start hooks ⟨none, none⟩ commands).setup machine.host true family
  let (summary, session) := summarize machine executor family result session
  (summary, (session.teardown machine.host family).2)

end Rendezvous.CommandLine

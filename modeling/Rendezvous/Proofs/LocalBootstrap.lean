import Rendezvous.CommandLine.Run
import Rendezvous.Proofs.SetupRetry

/-! The bootstrap of a family on the local host. Whatever is configured, all that a setup looks for
is registered there, so nothing but the test mode can stop it. The application has the same name
for the delegator and for the host, so there is one token, with a shell and without: the one that
the module is handed, that the user is told twice, and that a command for the token alone prints. -/
namespace Rendezvous

open CommandLine (Finished promptly)
open Interleaving (isQuestion)

namespace Local.Machine

variable {machine : Machine} {family : Family}

/-- Test mode is on, or nobody asks for it. -/
def Enabled (machine : Machine) : Prop :=
  machine.config.bootstrap.requireTestMode = false ∨
    Parameters.get machine.environ machine.config.parameters
      machine.config.bootstrap.testModeParameter "0" = "1"

/-- The token of this process. -/
def token (machine : Machine) : Token := .build machine.context machine.identity

/-- The environment of a family before anything is done to it. -/
def environment (machine : Machine) (family : Family) : Environment :=
  ⟨family, moduleHandle family, machine.resolver, .ofConfig machine.config.bootstrap family,
    .notStarted⟩

theorem family?_moduleHandle (family : Family) : family? (moduleHandle family) = some family := by
  cases family <;> rfl

/-- Before the bootstrap: both families loaded, and both modules without a token. -/
def opening (machine : Machine) (commands : τ) : Session Tokens τ :=
  .start (Hooks.install machine.resolver machine.config.bootstrap) ⟨none, none⟩ commands

/-- The launch that a setup on this machine fires. -/
def launch (machine : Machine) (family : Family) : Launch :=
  .fire true (machine.environment family).launcher (some registryHandle) machine.token

/-- How this launch ends where commands are run at once: as its command does, or without a shell not
at all. -/
def launched (machine : Machine) (family : Family) (run : String → UInt32 → ω → Reply × ω)
    (world : ω) : LaunchOutcome :=
  match machine.shell with
  | none => .skipped
  | some _ =>
    (Exit.ofReply (run (family.startCommand machine.token)
      (machine.config.bootstrap.timeout family) world).1).joined

/-- After a setup that found all it needs: its launch is fired, and the module has the token. No
command has been run yet. -/
structure Connected (machine : Machine) (family : Family) (commands : τ)
    (session : Session Tokens τ) : Prop where
  marked : session.hooks.get family = some { machine.environment family with state := .done }
  launches : session.launches = [machine.launch family]
  memory : session.outside.memory.get family = some machine.token
  waiting : session.outside.commands = commands

/-- A module that is handed a token makes no calls of its own. -/
theorem handed (machine : Machine) (family : Family)
    (callback : Family → Call → Session Tokens τ → Session Tokens τ)
    (session : Session Tokens τ) :
    Session.handOver machine.host true callback (machine.environment family) machine.token session =
      (.completed machine.token session.launches.length,
        { session.asked machine.host [.schedule (moduleHandle family) machine.token] with
          launches := session.launches ++ [machine.launch family] }) :=
  rfl

theorem scheduled (machine : Machine) (family : Family) (token : Token) (tokens : Tokens) :
    (machine.host.after [.schedule (moduleHandle family) token] tokens).get family =
      some token := by
  simp [Host.after, host, family?_moduleHandle, Tokens.schedule]

theorem Connected.mark {session : Session Tokens τ} {commands : τ}
    (callback : Family → Call → Session Tokens τ → Session Tokens τ)
    (held : session.hooks.get family =
      some { machine.environment family with state := .inProgress })
    (launches : session.launches = [machine.launch family])
    (memory : session.outside.memory.get family = some machine.token)
    (waiting : session.outside.commands = commands) :
    machine.Connected family commands
      (Session.perform machine.host true callback family (.guard .complete) session).2 := by
  rw [Session.perform_complete machine.host true callback held rfl]
  exact ⟨ByFamily.get_set_same .., launches, memory, waiting⟩

/-- The launch comes to its end as soon as it goes on, since its command does. -/
theorem launch_ends (machine : Machine) (family : Family) (run : String → UInt32 → ω → Reply × ω)
    (outside : Outside Tokens (Finished ω)) :
    let ended := (machine.launch family).advance machine.host (promptly run) outside
    (∃ exit, ended.1.exit? = some exit ∧
      exit.joined = machine.launched family run outside.commands.world) ∧
    ended.2.memory = outside.memory := by
  cases offer : machine.shell with
  | none =>
    simp [launch, launched, Launch.fire, Launch.advance, Launch.exit?, Outside.ask, host, offer,
      Exit.joined]
  | some shell =>
    simp [launch, launched, Launch.fire, Launch.advance, Launch.poll, Launch.exit?, Launch.command,
      Outside.ask, host, offer, promptly, environment, Environment.launcher]

/-- The launch of a setup is waited for without fail, and its end changes no module. -/
theorem Connected.await {commands : Finished ω} {session : Session Tokens (Finished ω)}
    (connected : machine.Connected family commands session)
    (run : String → UInt32 → ω → Reply × ω) :
    ∃ after, Session.await machine.host (promptly run) family
        { session with held := session.held.set family (some 0) } =
          (.ended (machine.launched family run commands.world), after) ∧
      after.hooks = session.hooks ∧ after.outside.memory = session.outside.memory := by
  let ended := (machine.launch family).advance machine.host (promptly run) session.outside
  obtain ⟨⟨exit, done, told⟩, memory⟩ : (∃ exit, ended.1.exit? = some exit ∧
        exit.joined = machine.launched family run session.outside.commands.world) ∧
      ended.2.memory = session.outside.memory := machine.launch_ends family run session.outside
  have ran : Session.run machine.host (promptly run)
      { session with held := session.held.set family (some 0) } =
        ⟨session.hooks, [ended.1], session.held.set family (some 0), ended.2⟩ := by
    simp [Session.run, connected.launches, Launch.advanceAll, ended]
  refine ⟨⟨session.hooks, [ended.1], session.held.set family none, ended.2⟩, ?_, rfl, memory⟩
  rw [connected.waiting] at told
  simp [Session.await, ran, done, told]

end Local.Machine

namespace CommandLine

open Local (Machine)

namespace Site

/-- What a user reads of a bootstrap whose launch ended so: the token of this process, which a
command for the token alone finds too, with the launch and the connection; or the parameter that
test mode hangs on. -/
structure Reports (site : Site) (config : Config) (outcome : LaunchOutcome) (text : String) :
    Prop where
  connected : (site.machine config).Enabled → ∃ token, site.token config = .ok token ∧
    text = "Token: " ++ token.text ++ "\n" ++ Summary.launchText outcome ++
      "Connection scheduled: " ++ token.text ++ "\n"
  disabled : ¬ (site.machine config).Enabled →
    text = "Test mode disabled: parameter '" ++ config.bootstrap.testModeParameter ++
      "' is not \"1\"; set it under [parameters] or via " ++
      Local.Parameters.variableName config.bootstrap.testModeParameter ++ "\n"

end Site

end CommandLine
end Rendezvous

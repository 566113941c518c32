import Rendezvous.Environment

/-! Launches: the background half of a setup. A launch asks the registry once more for a
delegator, runs the start command there and remembers how it ended. Nothing of it flows
back into the setup that fired it; even a panic ends as an outcome of the launch. -/
namespace Rendezvous

inductive LaunchOutcome where
  /-- No delegator: the daemon has to be running already. -/
  | skipped
  | succeeded (result : CommandResult)
  | failed (reason : String)
  deriving DecidableEq, Repr

def LaunchOutcome.isFailed : LaunchOutcome → Bool
  | .failed _ => true
  | _ => false

/-- How the body of a launch ended. -/
inductive Exit where
  | outcome (value : LaunchOutcome)
  | panicked (message : String)

namespace Exit

/-- A command that returned is a success whatever its exit code. -/
def ofReply : Reply → Exit
  | .returned result => .outcome (.succeeded result)
  | .failed error => .outcome (.failed error.message)
  | .panicked message => .panicked message

/-- What the holder of the launch is told: a panic is one more way to fail. -/
def joined : Exit → LaunchOutcome
  | .outcome value => value
  | .panicked message => .failed ("task N panicked with message " ++ Text.Quoted.quote message)

end Exit

inductive LaunchStage where
  | created
  | running (ticket : Nat)
  | ended (exit : Exit)

/-- What a call on an environment returned, or that the family is not loaded. -/
inductive CallResult where
  | notLoaded
  | setup (outcome : SetupOutcome)
  | teardown (outcome : TeardownOutcome)
  | state (state : SetupState)
  deriving DecidableEq, Repr

inductive Event where
  | asked (request : Request)
  | started (registry : Handle) (command : String) (timeoutUnits : UInt32)
  | ended (registry : Handle)
  /-- A call that a module made from inside its own callback, after it returned. -/
  | reentrant (family : Family) (call : Call) (result : CallResult)
  deriving DecidableEq, Repr

/-- Everything outside the environments: the host's memory, the commands under way, and the
log of what was asked of them. -/
structure Outside (σ τ : Type) where
  memory : σ
  commands : τ
  log : List Event

namespace Outside

def record (outside : Outside σ τ) (event : Event) : Outside σ τ :=
  { outside with log := outside.log ++ [event] }

def ask (host : Host σ) (request : Request) (outside : Outside σ τ) :
    request.Answer × Outside σ τ :=
  let (answer, memory) := host.answer request outside.memory
  (answer, { outside with memory := memory, log := outside.log ++ [.asked request] })

end Outside

structure Launch where
  launcher : Launcher
  token : Token
  registry : Handle
  stage : LaunchStage

namespace Launch

/-- Why a launch outside a runtime fails. -/
def noRuntime : String :=
  "there is no reactor running, must be called from the context of a Tokio 1.x runtime"

def command (launch : Launch) : String := launch.launcher.family.startCommand launch.token

/-- A fired launch: skipped without a registry, failed at once outside a runtime. -/
def fire (inRuntime : Bool) (launcher : Launcher) (registry : Option Handle) (token : Token) :
    Launch :=
  match registry with
  | none => ⟨launcher, token, "", .ended (.outcome .skipped)⟩
  | some registry =>
    ⟨launcher, token, registry,
      if inRuntime then .created else .ended (.outcome (.failed noRuntime))⟩

/-- Looks whether the command under this ticket has ended. -/
def poll (executor : Executor τ) (launch : Launch) (ticket : Nat) (outside : Outside σ τ) :
    Launch × Outside σ τ :=
  match executor.poll ticket outside.commands with
  | (none, commands) => ({ launch with stage := .running ticket }, { outside with commands })
  | (some reply, commands) =>
    ({ launch with stage := .ended (.ofReply reply) },
      { outside with commands, log := outside.log ++ [.ended launch.registry] })

/-- Goes on until the launch ends or waits for its command. -/
def advance (host : Host σ) (executor : Executor τ) (launch : Launch) (outside : Outside σ τ) :
    Launch × Outside σ τ :=
  match launch.stage with
  | .ended _ => (launch, outside)
  | .running ticket => launch.poll executor ticket outside
  | .created =>
    match outside.ask host (.delegator launch.registry) with
    | (none, outside) => ({ launch with stage := .ended (.outcome .skipped) }, outside)
    | (some delegator, outside) =>
      let (ticket, commands) :=
        executor.start delegator launch.command launch.launcher.timeoutUnits outside.commands
      launch.poll executor ticket
        { outside with
          commands
          log := outside.log ++
            [.started launch.registry launch.command launch.launcher.timeoutUnits] }

/-- Advances every launch once, the oldest first. -/
def advanceAll (host : Host σ) (executor : Executor τ) :
    List Launch → Outside σ τ → List Launch × Outside σ τ
  | [], outside => ([], outside)
  | launch :: rest, outside =>
    let (launch, outside) := launch.advance host executor outside
    let (rest, outside) := advanceAll host executor rest outside
    (launch :: rest, outside)

def exit? (launch : Launch) : Option Exit :=
  match launch.stage with
  | .ended exit => some exit
  | _ => none

@[simp] theorem length_advanceAll (host : Host σ) (executor : Executor τ)
    (launches : List Launch) (outside : Outside σ τ) :
    (advanceAll host executor launches outside).1.length = launches.length := by
  induction launches generalizing outside with
  | nil => rfl
  | cons launch rest ih => simp [advanceAll, ih]

end Launch
end Rendezvous

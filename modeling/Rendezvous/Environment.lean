import Rendezvous.Config
import Rendezvous.Program
import Rendezvous.Capability.Resolver

/-! The environment of one family and the two calls on it. A setup takes the guard, checks
the test-mode gate, finds out who the client is, hands the token to the module and then
fires the launch; whatever stops it before the hand-over gives the guard back. A teardown
happens only after a completed setup, and once. -/
namespace Rendezvous

inductive SetupOutcome where
  | completed (token : Token) (launch : LaunchId)
  | alreadyInitialized
  | policyDenied
  | capabilityUnavailable (what : WellKnown)
  deriving DecidableEq, Repr

def SetupOutcome.isCompleted : SetupOutcome → Bool
  | .completed .. => true
  | _ => false

inductive TeardownOutcome where
  | tornDown
  | notSetUp
  deriving DecidableEq, Repr

structure Environment where
  family : Family
  module : Handle
  resolver : Resolver
  settings : Settings
  state : SetupState

namespace Environment

/-- The environment of a family, if the resolver has a module for it. -/
def load (family : Family) (resolver : Resolver) (settings : Settings) : Option Environment :=
  (resolver.module family.moduleName).map fun module =>
    ⟨family, module, resolver, settings, .notStarted⟩

def launcher (env : Environment) : Launcher := ⟨env.family, env.settings.timeoutUnits⟩

/-- The value of the test-mode parameter that lets a setup pass. -/
def testModeEnabled : String := "1"

/-- Hands the token to the module, then fires the launch. -/
def connect (env : Environment) (process : Handle) (registry : Option Handle)
    (context : AppContext) : Program SetupOutcome := do
  let pid ← Program.ask (.pid process)
  let uid ← Program.ask (.uid process)
  let token := Token.build context ⟨pid, uid⟩
  let _ ← Program.ask (.schedule env.module token)
  let launch ← Program.perform (.launch env.launcher registry token)
  return .completed token launch

/-- Without a delegator the application has to be registered on its own. -/
def connectAlone (env : Environment) (process : Handle) (registry : Option Handle) :
    Program SetupOutcome :=
  match env.resolver.appContext with
  | some context => env.connect process registry context
  | none => return .capabilityUnavailable .appContext

/-- Finds the process and the application, the delegator's word before the host's. -/
def identify (env : Environment) : Program SetupOutcome :=
  match env.resolver.process with
  | none => return .capabilityUnavailable .process
  | some process =>
    match env.resolver.registry with
    | none => env.connectAlone process none
    | some registry => do
      match ← Program.ask (.delegator registry) with
      | none => env.connectAlone process (some registry)
      | some delegator =>
        let context ← Program.ask (.appContext delegator)
        env.connect process (some registry) context

/-- The part of a setup that runs while it holds the guard. -/
def attempt (env : Environment) : Program SetupOutcome :=
  if env.settings.requireTestMode then
    match env.resolver.parameters with
    | none => return .capabilityUnavailable .systemParameter
    | some provider => do
      let mode ← Program.ask (.parameter provider env.settings.testModeParameter "0")
      if mode = testModeEnabled then env.identify else return .policyDenied
  else env.identify

/-- Marks the guard done after a completed attempt and reopens it after any other. -/
def conclude (outcome : SetupOutcome) : Program SetupOutcome := do
  let _ ← Program.guard (if outcome.isCompleted then .complete else .abort)
  return outcome

def setup (env : Environment) : Program SetupOutcome := do
  if ← Program.guard .tryBegin then
    let outcome ← env.attempt
    conclude outcome
  else return .alreadyInitialized

def teardown (env : Environment) : Program TeardownOutcome := do
  if ← Program.guard .tryTeardown then
    let _ ← Program.ask (.dispose env.module)
    return .tornDown
  else return .notSetUp

def debugText (env : Environment) : String :=
  "TestEnvironment \x7b family: " ++ env.family.debugText ++ ", settings: " ++
    env.settings.debugText ++ ", state: " ++ env.state.debugText ++ ", .. \x7d"

theorem load_eq_some {family : Family} {resolver : Resolver} {settings : Settings}
    {env : Environment} :
    load family resolver settings = some env ↔
      ∃ module, resolver.module family.moduleName = some module ∧
        env = ⟨family, module, resolver, settings, .notStarted⟩ := by
  rw [load, Option.map_eq_some_iff]
  exact exists_congr fun _ => and_congr_right fun _ => eq_comm

end Environment
end Rendezvous

import Rendezvous.Session

/-! What one setup asks of its host and how it ends, as its attempt runs from request to
request. -/
namespace Rendezvous

namespace Environment

/-- What the test-mode gate asks. -/
def modeRequests (env : Environment) : List Request :=
  if env.settings.requireTestMode then
    env.resolver.parameters.toList.map fun provider =>
      .parameter provider env.settings.testModeParameter "0"
  else []

/-- The gate lets the setup pass: it is off, or test mode reads `1`. -/
def Admitted (env : Environment) (host : Host σ) (memory : σ) : Prop :=
  env.settings.requireTestMode = true → ∃ provider, env.resolver.parameters = some provider ∧
    host.reply memory [] (.parameter provider env.settings.testModeParameter "0") = "1"

def lookUp (env : Environment) : List Request := env.resolver.registry.toList.map .delegator

/-- The delegator that the registry offers after the gate. -/
def delegator? (env : Environment) (host : Host σ) (memory : σ) : Option Delegator :=
  env.resolver.registry.bind fun registry =>
    host.reply memory env.modeRequests (.delegator registry)

/-- The application that the token names: a delegator's own, whatever the resolver has. -/
def context? (env : Environment) (host : Host σ) (memory : σ) : Option AppContext :=
  match env.delegator? host memory with
  | some delegator =>
    some (host.reply memory (env.modeRequests ++ env.lookUp) (.appContext delegator))
  | none => env.resolver.appContext

/-- All that is asked before the process. -/
def inquiry (env : Environment) (host : Host σ) (memory : σ) : List Request :=
  env.modeRequests ++ env.lookUp ++ (env.delegator? host memory).toList.map .appContext

end Environment

/-- The token of an application and a process, asked for after some requests. -/
def Token.asked (host : Host σ) (memory : σ) (earlier : List Request) (process : Handle)
    (context : AppContext) : Token :=
  .build context
    ⟨host.reply memory earlier (.pid process),
      host.reply memory (earlier ++ [.pid process]) (.uid process)⟩

namespace Session

/-- The session after some requests. -/
def asked (host : Host σ) (requests : List Request) (session : Session σ τ) : Session σ τ :=
  { session with
    outside.memory := host.after requests session.outside.memory
    outside.log := session.outside.log ++ requests.map .asked }

@[simp] theorem asked_nil (host : Host σ) (session : Session σ τ) :
    session.asked host [] = session := by simp [asked, Host.after]

@[simp] theorem asked_asked (host : Host σ) (first second : List Request)
    (session : Session σ τ) :
    (session.asked host first).asked host second = session.asked host (first ++ second) := by
  simp [asked, Host.after_append]

@[simp] theorem asked_memory (host : Host σ) (requests : List Request) (session : Session σ τ) :
    (session.asked host requests).outside.memory = host.after requests session.outside.memory := rfl

/-- The calls that a module makes from inside its callback, one after the other. -/
def reenter (callback : Family → Call → Session σ τ → Session σ τ)
    (calls : List (Family × Call)) (session : Session σ τ) : Session σ τ :=
  calls.foldl (fun session call => callback call.1 call.2 session) session

/-- The session once the guard of the family is held. -/
def begun (family : Family) (env : Environment) (session : Session σ τ) : Session σ τ :=
  { session with hooks := session.hooks.set family (some { env with state := .inProgress }) }

section Attempt

variable (host : Host σ) (inRuntime : Bool)
  (callback : Family → Call → Session σ τ → Session σ τ) (family : Family)

theorem perform_ask (request : Request) (session : Session σ τ)
    (plain : ∀ module token, request ≠ .schedule module token) :
    perform host inRuntime callback family (.ask request) session =
      (host.reply session.outside.memory [] request, session.asked host [request]) := by
  cases request with
  | schedule module token => exact absurd rfl (plain module token)
  | _ => rfl

theorem run_ask (request : Request) (next : request.Answer → Program α) (session : Session σ τ)
    (plain : ∀ module token, request ≠ .schedule module token) :
    (Program.ask request >>= next).run (perform host inRuntime callback family) session =
      (next (host.reply session.outside.memory [] request)).run
        (perform host inRuntime callback family) (session.asked host [request]) := by
  rw [Program.ask, Program.run_perform]
  rw [perform_ask host inRuntime callback family request session plain]

theorem perform_schedule (module : Handle) (token : Token) (session : Session σ τ) :
    perform host inRuntime callback family (.ask (.schedule module token)) session =
      (host.reply session.outside.memory [] (.schedule module token),
        reenter callback (host.reply session.outside.memory [] (.schedule module token))
          (session.asked host [.schedule module token])) := rfl

/-- The module gets the token, and the launch is fired once its own calls are over. -/
def handOver (env : Environment) (token : Token) (session : Session σ τ) :
    SetupOutcome × Session σ τ :=
  let calls := host.reply session.outside.memory [] (.schedule env.module token)
  let session := reenter callback calls (session.asked host [.schedule env.module token])
  (.completed token session.launches.length,
    { session with
      launches := session.launches ++
        [.fire inRuntime env.launcher env.resolver.registry token] })

/-- How an attempt ends, and what it has asked until then. -/
inductive Attempted (env : Environment) (session : Session σ τ) :
    SetupOutcome × Session σ τ → Prop
  | noParameters (required : env.settings.requireTestMode = true)
      (absent : env.resolver.parameters = none) :
      Attempted env session (.capabilityUnavailable .systemParameter, session)
  | denied (required : env.settings.requireTestMode = true) (provider : Handle)
      (present : env.resolver.parameters = some provider)
      (refused : host.reply session.outside.memory []
        (.parameter provider env.settings.testModeParameter "0") ≠ "1") :
      Attempted env session (.policyDenied, session.asked host env.modeRequests)
  | noProcess (admitted : env.Admitted host session.outside.memory)
      (absent : env.resolver.process = none) :
      Attempted env session
        (.capabilityUnavailable .process, session.asked host env.modeRequests)
  | noContext (admitted : env.Admitted host session.outside.memory) (process : Handle)
      (present : env.resolver.process = some process)
      (absent : env.context? host session.outside.memory = none) :
      Attempted env session (.capabilityUnavailable .appContext,
        session.asked host (env.modeRequests ++ env.lookUp))
  | connected (admitted : env.Admitted host session.outside.memory) (process : Handle)
      (present : env.resolver.process = some process) (context : AppContext)
      (named : env.context? host session.outside.memory = some context) :
      Attempted env session
        (handOver host inRuntime callback env
          (.asked host session.outside.memory (env.inquiry host session.outside.memory) process
            context)
          (session.asked host
            (env.inquiry host session.outside.memory ++ [.pid process, .uid process])))

theorem run_connect (env : Environment) (process : Handle) (context : AppContext)
    (session : Session σ τ) (earlier : List Request) :
    (env.connect process env.resolver.registry context).run
        (perform host inRuntime callback family) (session.asked host earlier) =
      handOver host inRuntime callback env
        (.asked host session.outside.memory earlier process context)
        (session.asked host (earlier ++ [.pid process, .uid process])) := by
  unfold Environment.connect
  rw [run_ask _ _ _ _ _ _ _ (by simp), run_ask _ _ _ _ _ _ _ (by simp)]
  have pid : host.reply (session.asked host earlier).outside.memory [] (.pid process) =
      host.reply session.outside.memory earlier (.pid process) := by simp
  have uid : host.reply ((session.asked host earlier).asked host [.pid process]).outside.memory []
      (.uid process) = host.reply session.outside.memory (earlier ++ [.pid process])
        (.uid process) := by simp
  have both : ((session.asked host earlier).asked host [.pid process]).asked host [.uid process] =
      session.asked host (earlier ++ [.pid process, .uid process]) := by simp
  rw [pid, uid, both]
  rfl

theorem run_connectAlone (env : Environment) (process : Handle) (session : Session σ τ)
    (earlier : List Request) :
    (env.connectAlone process env.resolver.registry).run
        (perform host inRuntime callback family) (session.asked host earlier) =
      match env.resolver.appContext with
      | none => (.capabilityUnavailable .appContext, session.asked host earlier)
      | some context =>
        handOver host inRuntime callback env
          (.asked host session.outside.memory earlier process context)
          (session.asked host (earlier ++ [.pid process, .uid process])) := by
  unfold Environment.connectAlone
  cases env.resolver.appContext with
  | none => rfl
  | some context => exact run_connect ..

/-- Without a delegator, for want of a registry or of its offer, the application must be
registered on its own. -/
theorem run_identify_alone (env : Environment) (process : Handle)
    (present : env.resolver.process = some process) (session : Session σ τ)
    (alone : env.delegator? host session.outside.memory = none) :
    env.identify.run (perform host inRuntime callback family)
        (session.asked host env.modeRequests) =
      (env.connectAlone process env.resolver.registry).run
        (perform host inRuntime callback family)
        (session.asked host (env.modeRequests ++ env.lookUp)) := by
  simp only [Environment.identify, present]
  cases registry : env.resolver.registry with
  | none => simp [Environment.lookUp, registry]
  | some offering =>
    have silent :
        host.reply session.outside.memory env.modeRequests (.delegator offering) = none := by
      simpa [Environment.delegator?, registry] using alone
    simp only
    rw [run_ask _ _ _ _ _ _ _ (by simp)]
    simp [silent, Environment.lookUp, registry]

theorem run_identify_delegated (env : Environment) (process : Handle)
    (present : env.resolver.process = some process) (session : Session σ τ)
    (delegated : env.delegator? host session.outside.memory = some delegator) :
    env.identify.run (perform host inRuntime callback family)
        (session.asked host env.modeRequests) =
      (env.connect process env.resolver.registry
          (host.reply session.outside.memory (env.modeRequests ++ env.lookUp)
            (.appContext delegator))).run
        (perform host inRuntime callback family)
        (session.asked host (env.modeRequests ++ env.lookUp ++ [.appContext delegator])) := by
  simp only [Environment.identify, present]
  cases registry : env.resolver.registry with
  | none => simp [Environment.delegator?, registry] at delegated
  | some offering =>
    have offered :
        host.reply session.outside.memory env.modeRequests (.delegator offering) =
          some delegator := by
      simpa [Environment.delegator?, registry] using delegated
    simp only
    rw [run_ask _ _ _ _ _ _ _ (by simp)]
    simp only [asked_memory, Host.reply_after, List.append_nil, offered, asked_asked]
    rw [run_ask _ _ _ _ _ _ _ (by simp)]
    simp [Environment.lookUp, registry]

/-- Whoever passes the gate goes on to identify itself. -/
theorem run_attempt_admitted (env : Environment) (session : Session σ τ)
    (admitted : env.Admitted host session.outside.memory) :
    env.attempt.run (perform host inRuntime callback family) session =
      env.identify.run (perform host inRuntime callback family)
        (session.asked host env.modeRequests) := by
  unfold Environment.attempt
  split
  · rename_i required
    obtain ⟨provider, present, enabled⟩ := admitted required
    simp only [present]
    rw [run_ask _ _ _ _ _ _ _ (by simp)]
    simp [enabled, Environment.testModeEnabled, Environment.modeRequests, required, present]
  · rename_i free
    simp [Environment.modeRequests, free]

theorem run_attempt (env : Environment) (session : Session σ τ) :
    Attempted host inRuntime callback env session
      (env.attempt.run (perform host inRuntime callback family) session) := by
  by_cases admitted : env.Admitted host session.outside.memory
  · rw [run_attempt_admitted _ _ _ _ _ _ admitted]
    cases process : env.resolver.process with
    | none =>
      simp only [Environment.identify, process]
      exact .noProcess admitted process
    | some handle =>
      cases offer : env.delegator? host session.outside.memory with
      | none =>
        have inquiry : env.inquiry host session.outside.memory =
            env.modeRequests ++ env.lookUp := by
          simp [Environment.inquiry, offer]
        rw [run_identify_alone _ _ _ _ _ handle process _ offer, run_connectAlone]
        cases context : env.resolver.appContext with
        | none =>
          exact .noContext admitted handle process (by simp [Environment.context?, offer, context])
        | some value =>
          rw [← inquiry]
          exact .connected admitted handle process value
            (by simp [Environment.context?, offer, context])
      | some delegator =>
        have inquiry : env.inquiry host session.outside.memory =
            env.modeRequests ++ env.lookUp ++ [.appContext delegator] := by
          simp [Environment.inquiry, offer]
        rw [run_identify_delegated _ _ _ _ _ handle process _ offer, run_connect, ← inquiry]
        exact .connected admitted handle process _ (by simp [Environment.context?, offer])
  · have required : env.settings.requireTestMode = true := by
      simp only [Environment.Admitted, Classical.not_imp] at admitted
      exact admitted.1
    cases parameters : env.resolver.parameters with
    | none =>
      simp only [Environment.attempt, required, parameters]
      exact .noParameters required parameters
    | some provider =>
      have refused : host.reply session.outside.memory []
          (.parameter provider env.settings.testModeParameter "0") ≠ "1" := by
        intro enabled
        exact admitted fun _ => ⟨provider, parameters, enabled⟩
      have asked : env.modeRequests =
          [.parameter provider env.settings.testModeParameter "0"] := by
        simp [Environment.modeRequests, required, parameters]
      have denied : Attempted host inRuntime callback env session
          (.policyDenied, session.asked host env.modeRequests) :=
        .denied required provider parameters refused
      simp only [Environment.attempt, required, parameters, if_true]
      rw [run_ask _ _ _ _ _ _ _ (by simp)]
      simpa [refused, Environment.testModeEnabled, asked] using denied

theorem perform_tryBegin {env : Environment} {session : Session σ τ}
    (loaded : session.hooks.get family = some env) (fresh : env.state = .notStarted) :
    perform host inRuntime callback family (.guard .tryBegin) session =
      (true, session.begun family env) := by
  simp [perform, loaded, fresh, SetupState.apply, GuardOp.source, GuardOp.target, begun]

theorem perform_guard_outside (op : GuardOp) (session : Session σ τ) :
    (perform host inRuntime callback family (.guard op) session).2.outside =
      session.outside := by
  simp only [perform]
  split <;> rfl

/-- A setup that gets the guard runs one attempt, and settles the guard after it. -/
theorem run_setup {env : Environment} {session : Session σ τ}
    (loaded : session.hooks.get family = some env) (fresh : env.state = .notStarted) :
    env.setup.run (perform host inRuntime callback family) session =
      let ending := env.attempt.run (perform host inRuntime callback family)
        (session.begun family env)
      (ending.1, (perform host inRuntime callback family
        (.guard (if ending.1.isCompleted then .complete else .abort)) ending.2).2) := by
  unfold Environment.setup
  rw [Program.guard, Program.run_perform]
  rw [perform_tryBegin _ _ _ _ loaded fresh]
  exact Program.run_bind ..

end Attempt

end Session
end Rendezvous

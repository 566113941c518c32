import Rendezvous.Proofs.Reentry
import Rendezvous.Proofs.Resolution
import Rendezvous.Rehearsal

/-! The decision of a setup. On an environment that nothing has been done to, the gate, the
registered capabilities and the delegator decide between five outcomes, and each outcome has
its own requests to the host. -/
namespace Rendezvous

namespace Environment

variable {env : Environment} {host : Host σ} {memory : σ}

theorem Admitted.parameters (admitted : env.Admitted host memory) :
    ¬ (env.settings.requireTestMode = true ∧ env.resolver.parameters = none) := by
  rintro ⟨required, absent⟩
  obtain ⟨provider, present, _⟩ := admitted required
  simp [absent] at present

theorem Admitted.enabled (admitted : env.Admitted host memory) :
    ¬ (env.settings.requireTestMode = true ∧ ∃ provider,
      env.resolver.parameters = some provider ∧
      host.reply memory [] (.parameter provider env.settings.testModeParameter "0") ≠ "1") := by
  rintro ⟨required, provider, present, refused⟩
  obtain ⟨_, same, enabled⟩ := admitted required
  obtain rfl := Option.some.inj (present.symm.trans same)
  exact refused enabled

/-- No context means no delegator and no application of the host's own. -/
theorem context?_eq_none :
    env.context? host memory = none ↔
      env.delegator? host memory = none ∧ env.resolver.appContext = none := by
  unfold context?
  split
  · rename_i delegated
    simp [delegated]
  · rename_i alone
    simp [alone]

/-- What decides on each of the five outcomes. -/
structure Decided (env : Environment) (host : Host σ) (memory : σ) (outcome : SetupOutcome) :
    Prop where
  noParameters : outcome = .capabilityUnavailable .systemParameter ↔
    env.settings.requireTestMode = true ∧ env.resolver.parameters = none
  denied : outcome = .policyDenied ↔
    env.settings.requireTestMode = true ∧ ∃ provider,
      env.resolver.parameters = some provider ∧
      host.reply memory [] (.parameter provider env.settings.testModeParameter "0") ≠ "1"
  noProcess : outcome = .capabilityUnavailable .process ↔
    env.Admitted host memory ∧ env.resolver.process = none
  noContext : outcome = .capabilityUnavailable .appContext ↔
    env.Admitted host memory ∧ env.resolver.process ≠ none ∧
      env.delegator? host memory = none ∧ env.resolver.appContext = none
  completed : ∀ token, (∃ launch, outcome = .completed token launch) ↔
    env.Admitted host memory ∧ ∃ process context, env.resolver.process = some process ∧
      env.context? host memory = some context ∧
      token = .asked host memory (env.inquiry host memory) process context

def identification (env : Environment) : List Request :=
  env.resolver.process.toList.flatMap fun process => [.pid process, .uid process]

/-- All that a setup itself asks of the host on its way to an outcome. -/
def requests (env : Environment) (host : Host σ) (memory : σ) : SetupOutcome → List Request
  | .completed token _ =>
    env.inquiry host memory ++ env.identification ++ [.schedule env.module token]
  | .capabilityUnavailable .appContext => env.modeRequests ++ env.lookUp
  | .capabilityUnavailable .process | .policyDenied => env.modeRequests
  | _ => []

/-- The calls that the module makes while it is handed the token. -/
def callbacks (env : Environment) (host : Host σ) (memory : σ) :
    SetupOutcome → List (Family × Call)
  | .completed token _ =>
    host.reply memory (env.inquiry host memory ++ env.identification)
      (.schedule env.module token)
  | _ => []

end Environment

namespace Session

variable {host : Host σ} {inRuntime : Bool} {env : Environment} {session : Session σ τ}
  {callback : Family → Call → Session σ τ → Session σ τ} {ending : SetupOutcome × Session σ τ}

theorem Attempted.decided (attempted : Attempted host inRuntime callback env session ending) :
    env.Decided host session.outside.memory ending.1 := by
  cases attempted with
  | noParameters required absent =>
    have barred : ¬ env.Admitted host session.outside.memory :=
      fun admitted => admitted.parameters ⟨required, absent⟩
    constructor <;> simp [required, absent, barred]
  | denied required provider present refused =>
    have barred : ¬ env.Admitted host session.outside.memory :=
      fun admitted => admitted.enabled ⟨required, provider, present, refused⟩
    constructor <;> simp [required, present, refused, barred]
  | noProcess admitted absent =>
    have given := admitted.parameters
    have enabled := admitted.enabled
    constructor <;> simp_all
  | noContext admitted process present absent =>
    have given := admitted.parameters
    have enabled := admitted.enabled
    have missing := Environment.context?_eq_none.mp absent
    constructor <;> simp_all
  | connected admitted process present context named =>
    have given := admitted.parameters
    have enabled := admitted.enabled
    have known : ¬ (env.delegator? host session.outside.memory = none ∧
        env.resolver.appContext = none) := by
      rw [← Environment.context?_eq_none, named]
      simp
    constructor <;> simp_all [handOver]
    exact fun _ => eq_comm

/-- What a setup with this outcome leaves outside: its own requests, then whatever comes of the
module's calls. Those on the family itself come to nothing, and no command is started. -/
structure Recorded (host : Host σ) (family : Family) (env : Environment)
    (outcome : SetupOutcome) (before after : Outside σ τ) : Prop where
  log : ∃ more, after.log = before.log ++
      (env.requests host before.memory outcome).map .asked ++ more ∧
    (∀ event ∈ more, event.ofCommand = false) ∧
    ((∀ call ∈ env.callbacks host before.memory outcome, call.1 = family) →
      more = (env.callbacks host before.memory outcome).map fun call =>
        .reentrant family call.2 call.2.refusal)
  commands : after.commands = before.commands

/-- The hand-over after some requests, with the calls that the module makes there. -/
theorem handOver_outside (depth : Nat) (token : Token) (session : Session σ τ)
    (earlier : List Request) :
    (handOver host inRuntime (reentrant host inRuntime id depth) env token
        (session.asked host earlier)).2.outside =
      (reenter (reentrant host inRuntime id depth)
        (host.reply session.outside.memory earlier (.schedule env.module token))
        (session.asked host (earlier ++ [.schedule env.module token]))).outside := by
  simp [handOver]

theorem handOver_recorded {busy : Environment} {depth : Nat}
    (loaded : session.hooks.get family = some busy) (held : busy.state = .inProgress)
    (token : Token) :
    let ending := handOver host inRuntime (reentrant host inRuntime id depth) env token
      (session.asked host (env.inquiry host session.outside.memory ++ env.identification))
    Recorded host family env ending.1 session.outside ending.2.outside := by
  intro ending
  let earlier := env.inquiry host session.outside.memory ++ env.identification
  let calls := host.reply session.outside.memory earlier (.schedule env.module token)
  let handed := session.asked host (earlier ++ [.schedule env.module token])
  have outside : ending.2.outside =
      (reenter (reentrant host inRuntime id depth) calls handed).outside :=
    handOver_outside depth token session earlier
  have grown : Grows handed (reenter (reentrant host inRuntime id depth) calls handed) :=
    reenter_grows (reentrant_grows depth) calls handed
  obtain ⟨more, grew, quiet⟩ := grown.log
  refine ⟨⟨more, ?_, quiet, ?_⟩, ?_⟩
  · rw [outside, grew]
    rfl
  · intro own
    have refused := reenter_refused host inRuntime handed depth loaded held calls own
    rw [refused] at grew
    exact (List.append_cancel_left grew).symm
  · rw [outside, grown.commands]
    rfl

theorem Attempted.recorded {busy : Environment} {depth : Nat}
    (loaded : session.hooks.get family = some busy) (held : busy.state = .inProgress)
    (attempted : Attempted host inRuntime (reentrant host inRuntime id depth) env session ending) :
    Recorded host family env ending.1 session.outside ending.2.outside := by
  have quiet (requests : List Request) (outcome : SetupOutcome)
      (same : env.requests host session.outside.memory outcome = requests)
      (silent : env.callbacks host session.outside.memory outcome = []) :
      Recorded host family env outcome session.outside (session.asked host requests).outside :=
    ⟨⟨[], by simp [asked, same], by simp, by simp [silent]⟩, rfl⟩
  cases attempted with
  | noParameters => simpa using quiet [] _ rfl rfl
  | denied => exact quiet _ _ rfl rfl
  | noProcess => exact quiet _ _ rfl rfl
  | noContext => exact quiet _ _ rfl rfl
  | connected admitted process present context named =>
    have identified : env.identification = [.pid process, .uid process] := by
      simp [Environment.identification, present]
    rw [← identified]
    exact handOver_recorded loaded held _

/-- A setup that gets the guard runs one attempt, settles the guard and gives the outcome. -/
theorem call_setup_attempts (host : Host σ) (inRuntime : Bool)
    (loaded : session.hooks.get family = some env) (fresh : env.state = .notStarted) :
    ∃ ending, Attempted host inRuntime (reentrant host inRuntime id 1) env
        (session.begun family env) ending ∧
      session.call host inRuntime family .setup =
        (.setup ending.1, (perform host inRuntime (reentrant host inRuntime id 1) family
          (.guard (if ending.1.isCompleted then .complete else .abort)) ending.2).2) := by
  have run := run_setup host inRuntime (reentrant host inRuntime id 1) family loaded fresh
  have called : session.call host inRuntime family .setup =
      let ending := env.setup.run
        (perform host inRuntime (reentrant host inRuntime id 1) family) session
      (.setup ending.1, ending.2) := by
    change callWithin host inRuntime id (1 + 1) family .setup session = _
    rw [callWithin_succ]
    simp only [callWith, loaded]
    rfl
  rw [run] at called
  exact ⟨_, run_attempt host inRuntime _ family env _, called⟩

theorem call_setup (host : Host σ) (inRuntime : Bool)
    (loaded : session.hooks.get family = some env) (fresh : env.state = .notStarted) :
    ∃ ending, Attempted host inRuntime (reentrant host inRuntime id 1) env
        (session.begun family env) ending ∧
      (session.call host inRuntime family .setup).1 = .setup ending.1 ∧
      (session.call host inRuntime family .setup).2.outside = ending.2.outside := by
  obtain ⟨ending, attempted, called⟩ := call_setup_attempts host inRuntime loaded fresh
  rw [called]
  exact ⟨ending, attempted, rfl, perform_guard_outside ..⟩

/-- The first setup of an environment always returns, and its outcome, its token and its calls
into the host are exactly those that the settings, the winning entries and the host's answers
decide. -/
theorem setup_decided (host : Host σ) (inRuntime : Bool)
    (loaded : session.hooks.get family = some env) (fresh : env.state = .notStarted) :
    ∃ outcome, (session.call host inRuntime family .setup).1 = .setup outcome ∧
      env.Decided host session.outside.memory outcome ∧
      Recorded host family env outcome session.outside
        (session.call host inRuntime family .setup).2.outside ∧
      env.resolver.Found WellKnown.systemParameter.name .parameters env.resolver.parameters ∧
      env.resolver.Found WellKnown.process.name .process env.resolver.process ∧
      env.resolver.Found WellKnown.delegatorRegistry.name .registry env.resolver.registry ∧
      env.resolver.Found WellKnown.appContext.name .context env.resolver.appContext := by
  obtain ⟨ending, attempted, answer, outside⟩ := call_setup host inRuntime loaded fresh
  have held : (session.begun family env).hooks.get family =
      some { env with state := .inProgress } := by simp [begun]
  have recorded := attempted.recorded held rfl
  rw [← outside] at recorded
  exact ⟨ending.1, answer, attempted.decided, recorded, env.resolver.parameters_found,
    env.resolver.process_found, env.resolver.registry_found, env.resolver.appContext_found⟩

/-- An environment in test mode, with an application of its own beside the delegator's. -/
def rehearsed : Environment :=
  ⟨.ui, "m",
    .ofHistory [⟨.native, "systemparameter", .parameters "s"⟩, ⟨.plugin, "process", .process "p"⟩,
      ⟨.native, "application.context", .context ⟨"host", 5⟩⟩,
      ⟨.native, "application.abilityDelegatorRegistry", .registry "r"⟩],
    .forFamily .ui, .notStarted⟩

def rehearsal : Session Rehearsal.Stage Unit :=
  .start ⟨some rehearsed, none⟩
    { processes := [("p", ⟨7, 2⟩)]
      parameters := [("s", [("persist.ace.testmode.enabled", "1")])]
      registries := [("r", some 0)]
      contexts := [⟨"app", 1⟩]
      modules := [("m", .ui, [.setup, .state])] } ()

/-- The delegator's application goes before the registered one. -/
theorem rehearsal_decided :
    (rehearsal.hooks.get .ui = some rehearsed ∧ rehearsed.state = .notStarted) ∧
    ∃ outcome, (rehearsal.call Rehearsal.stageHost true .ui .setup).1 = .setup outcome ∧
      rehearsed.Decided Rehearsal.stageHost rehearsal.outside.memory outcome ∧
      Recorded Rehearsal.stageHost .ui rehearsed outcome rehearsal.outside
        (rehearsal.call Rehearsal.stageHost true .ui .setup).2.outside ∧
      outcome = .completed ⟨"app@7@2@1"⟩ 0 := by
  obtain ⟨outcome, answer, decided, recorded, _⟩ :=
    setup_decided Rehearsal.stageHost true (show rehearsal.hooks.get .ui = some rehearsed from rfl)
      (show rehearsed.state = .notStarted from rfl)
  have returned : (rehearsal.call Rehearsal.stageHost true .ui .setup).1 =
      .setup (.completed ⟨"app@7@2@1"⟩ 0) := by decide +kernel
  refine ⟨⟨rfl, rfl⟩, outcome, answer, decided, recorded, ?_⟩
  rw [returned] at answer
  exact (CallResult.setup.inj answer).symm

end Session
end Rendezvous

import Rendezvous.Proofs.InterleavingCourse
import Rendezvous.Proofs.SetupDecision

/-! Setups of one environment that are tried again. Before each call the host may have become
any other: its memory, its answers and even what it has registered. A setup that fails has
asked questions and done nothing else, so the next one starts from where it started; the first
that finds all it needs completes, and is the last. -/
namespace Rendezvous

open Interleaving (isQuestion)

namespace Environment

/-- All that a setup needs: test mode, if it is required, a process, and an application that
either a delegator or the host itself names. -/
def Ready (env : Environment) (host : Host σ) (memory : σ) : Prop :=
  env.Admitted host memory ∧ env.resolver.process ≠ none ∧ env.context? host memory ≠ none

theorem modeRequests_questions (env : Environment) :
    ∀ request ∈ env.modeRequests, isQuestion request = true := by
  intro request member
  unfold modeRequests at member
  split at member
  · obtain ⟨provider, _, rfl⟩ := List.mem_map.mp member
    rfl
  · contradiction

theorem lookUp_questions (env : Environment) :
    ∀ request ∈ env.lookUp, isQuestion request = true := by
  intro request member
  obtain ⟨registry, _, rfl⟩ := List.mem_map.mp member
  rfl

end Environment

namespace Session

section Attempt

variable {host : Host σ} {inRuntime : Bool} {env : Environment} {session : Session σ τ}
  {callback : Family → Call → Session σ τ → Session σ τ} {ending : SetupOutcome × Session σ τ}

/-- An attempt that lacks something asks questions and does nothing else. -/
theorem Attempted.unready (attempted : Attempted host inRuntime callback env session ending)
    (unready : ¬ env.Ready host session.outside.memory) :
    ∃ requests, ending.2 = session.asked host requests ∧
      (∀ request ∈ requests, isQuestion request = true) ∧
      (ending.1 = .policyDenied ∨ ∃ what, ending.1 = .capabilityUnavailable what) := by
  have mode := env.modeRequests_questions
  cases attempted with
  | noParameters => exact ⟨[], by simp, by simp, .inr ⟨_, rfl⟩⟩
  | denied => exact ⟨_, rfl, mode, .inl rfl⟩
  | noProcess => exact ⟨_, rfl, mode, .inr ⟨_, rfl⟩⟩
  | noContext =>
    refine ⟨_, rfl, ?_, .inr ⟨_, rfl⟩⟩
    intro request member
    rcases List.mem_append.mp member with member | member
    · exact mode request member
    · exact env.lookUp_questions request member
  | connected admitted process present context named =>
    exact absurd ⟨admitted, by simp [present], by simp [named]⟩ unready

theorem Attempted.ready (attempted : Attempted host inRuntime callback env session ending)
    (ready : env.Ready host session.outside.memory) :
    ∃ token launch, ending.1 = .completed token launch := by
  obtain ⟨admitted, present, named⟩ := ready
  obtain ⟨process, present⟩ := Option.ne_none_iff_exists'.mp present
  obtain ⟨context, named⟩ := Option.ne_none_iff_exists'.mp named
  exact ⟨_, (attempted.decided.completed _).mpr ⟨admitted, process, context, present, named, rfl⟩⟩

theorem handOver_keeps
    (each : ∀ family call session, Keeps session (callback family call session)) (token : Token)
    (session : Session σ τ) :
    Keeps session (handOver host inRuntime callback env token session).2 := fun family =>
  reenter_keeps each _ (session.asked host [.schedule env.module token]) family

/-- What is being set up stays so throughout an attempt. -/
theorem Attempted.keeps (attempted : Attempted host inRuntime callback env session ending)
    (each : ∀ family call session, Keeps session (callback family call session)) :
    Keeps session ending.2 := by
  cases attempted with
  | connected => exact fun family => handOver_keeps each _ (session.asked host _) family
  | _ => exact .of_hooks rfl

end Attempt

section Call

variable (host : Host σ) (inRuntime : Bool) {family : Family} {env : Environment}
  {session : Session σ τ}

/-- Giving the guard back after some questions leaves nothing but the questions. -/
theorem perform_abort (callback : Family → Call → Session σ τ → Session σ τ)
    (loaded : session.hooks.get family = some env) (fresh : env.state = .notStarted)
    (requests : List Request) :
    perform host inRuntime callback family (.guard .abort)
        ((session.begun family env).asked host requests) =
      (true, session.asked host requests) := by
  have restored : session.hooks.set family (some { env with state := .notStarted }) =
      session.hooks := by
    rw [← fresh]
    exact ByFamily.set_of_get loaded
  simp [perform, begun, asked, SetupState.apply, GuardOp.source, GuardOp.target, restored]

/-- The end of a completed setup marks its guard. -/
theorem perform_complete (callback : Family → Call → Session σ τ → Session σ τ)
    (held : session.hooks.get family = some env) (busy : env.state = .inProgress) :
    perform host inRuntime callback family (.guard .complete) session =
      (true, { session with
        hooks := session.hooks.set family (some { env with state := .done }) }) := by
  simp [perform, held, busy, SetupState.apply, GuardOp.source, GuardOp.target]

theorem call_unready (loaded : session.hooks.get family = some env)
    (fresh : env.state = .notStarted) (unready : ¬ env.Ready host session.outside.memory) :
    ∃ outcome requests,
      session.call host inRuntime family .setup = (.setup outcome, session.asked host requests) ∧
      (∀ request ∈ requests, isQuestion request = true) ∧
      (outcome = .policyDenied ∨ ∃ what, outcome = .capabilityUnavailable what) := by
  obtain ⟨⟨outcome, after⟩, attempted, called⟩ :=
    call_setup_attempts host inRuntime loaded fresh
  rw [called]
  obtain ⟨requests, left, questions, refused⟩ := attempted.unready unready
  obtain rfl : after = (session.begun family env).asked host requests := left
  have restored := congrArg Prod.snd
    (perform_abort host inRuntime (reentrant host inRuntime id 1) loaded fresh requests)
  refine ⟨outcome, requests, Prod.ext rfl ?_, questions, refused⟩
  rcases refused with rfl | ⟨what, rfl⟩ <;> exact restored

theorem call_ready (loaded : session.hooks.get family = some env)
    (fresh : env.state = .notStarted) (ready : env.Ready host session.outside.memory) :
    ∃ token launch,
      (session.call host inRuntime family .setup).1 = .setup (.completed token launch) ∧
      (session.call host inRuntime family .setup).2.hooks.get family =
        some { env with state := .done } := by
  obtain ⟨⟨outcome, after⟩, attempted, called⟩ :=
    call_setup_attempts host inRuntime loaded fresh
  rw [called]
  obtain ⟨token, launch, rfl⟩ : ∃ token launch, outcome = .completed token launch :=
    attempted.ready ready
  have begun : (session.begun family env).hooks.get family =
      some { env with state := .inProgress } := by simp [Session.begun]
  have barred : (session.begun family env).Barred family := by
    intro busy loaded
    obtain rfl := Option.some.inj (begun.symm.trans loaded)
    rfl
  have held := attempted.keeps (reentrant_keeps (fun _ => rfl) 1) family barred
  have marked := perform_complete host inRuntime (reentrant host inRuntime id 1)
    (held.trans begun) rfl
  refine ⟨token, launch, rfl, ?_⟩
  change (perform host inRuntime _ family (.guard .complete) after).2.hooks.get family = _
  rw [marked]
  exact ByFamily.get_set_same ..

theorem call_setup_late (loaded : session.hooks.get family = some env)
    (late : env.state ≠ .notStarted) :
    session.call host inRuntime family .setup = (.setup .alreadyInitialized, session) :=
  callWith_setup_late host inRuntime session (fun _ => rfl) (reentrant host inRuntime id 1) loaded
    late

theorem call_teardown_early (loaded : session.hooks.get family = some env)
    (early : env.state ≠ .done) :
    session.call host inRuntime family .teardown = (.teardown .notSetUp, session) :=
  callWith_teardown_early host inRuntime session (fun _ => rfl) (reentrant host inRuntime id 1)
    loaded early

/-- A teardown after a completed setup marks the guard, then disposes of the module. -/
theorem call_teardown (loaded : session.hooks.get family = some env)
    (done : env.state = .done) :
    session.call host inRuntime family .teardown =
      (.teardown .tornDown, { session with
        hooks := session.hooks.set family (some { env with state := .tornDown })
        outside := (session.outside.ask host (.dispose env.module)).2 }) := by
  have closed : perform host inRuntime (reentrant host inRuntime id 1) family
      (.guard .tryTeardown) session =
        (true, { session with
          hooks := session.hooks.set family (some { env with state := .tornDown }) }) := by
    simp [perform, loaded, done, SetupState.apply, GuardOp.source, GuardOp.target]
  change callWith host inRuntime id (reentrant host inRuntime id 1) family .teardown session = _
  simp only [callWith, loaded, Environment.teardown, Program.guard, id]
  rw [Program.run_perform, closed]
  rfl

theorem call_teardown_done (loaded : session.hooks.get family = some env)
    (done : env.state = .done) :
    (session.call host inRuntime family .teardown).2.hooks.get family =
      some { env with state := .tornDown } := by
  rw [call_teardown host inRuntime loaded done]
  exact ByFamily.get_set_same ..

theorem call_state (loaded : session.hooks.get family = some env) :
    session.call host inRuntime family .state = (.state env.state, session) := by
  change callWith host inRuntime id (reentrant host inRuntime id 1) family .state session = _
  simp [callWith, loaded]

end Call

/-- A call on the environment of one family, and the host that it meets. -/
structure Visit (σ : Type) where
  call : Call
  inRuntime : Bool
  memory : σ
  resolver : Resolver

namespace Visit

/-- The session with the host that the visit meets. -/
def arrive (family : Family) (visit : Visit σ) (session : Session σ τ) : Session σ τ :=
  { session with
    hooks := session.hooks.set family
      ((session.hooks.get family).map fun env => { env with resolver := visit.resolver })
    outside.memory := visit.memory }

def pay (host : Host σ) (family : Family) (visit : Visit σ) (session : Session σ τ) :
    CallResult × Session σ τ :=
  (visit.arrive family session).call host visit.inRuntime family visit.call

/-- It is a setup, and it meets a host with all that it needs. -/
def Succeeds (env : Environment) (host : Host σ) (visit : Visit σ) : Prop :=
  visit.call = .setup ∧ { env with resolver := visit.resolver }.Ready host visit.memory

end Visit

/-- The session after some visits, one after the other. -/
def visited (host : Host σ) (family : Family) (visits : List (Visit σ)) (session : Session σ τ) :
    Session σ τ :=
  visits.foldl (fun session visit => (visit.pay host family session).2) session

/-- The environment of a family, whatever it has for a resolver by now, stands in a state. -/
def Stands (family : Family) (env : Environment) (state : SetupState) (session : Session σ τ) :
    Prop :=
  ∃ resolver, session.hooks.get family = some { env with resolver, state }

section Visits

variable (host : Host σ) {family : Family} {env : Environment} {state : SetupState}
  {session : Session σ τ}

theorem Stands.arrive (stands : session.Stands family env state) (visit : Visit σ) :
    (visit.arrive family session).hooks.get family =
      some { env with resolver := visit.resolver, state } := by
  obtain ⟨resolver, loaded⟩ := stands
  simp [Visit.arrive, loaded]

/-- A visit that is no successful setup leaves a fresh environment fresh. -/
theorem Stands.failed (stands : session.Stands family env .notStarted) (visit : Visit σ)
    (fails : ¬ visit.Succeeds env host) :
    (visit.pay host family session).2.Stands family env .notStarted := by
  have loaded := stands.arrive visit
  refine ⟨visit.resolver, ?_⟩
  unfold Visit.pay
  cases kind : visit.call with
  | setup =>
    have unready : ¬ { env with resolver := visit.resolver, state := .notStarted }.Ready host
        (visit.arrive family session).outside.memory := fun ready => fails ⟨kind, ready⟩
    obtain ⟨outcome, requests, called, _⟩ :=
      call_unready host visit.inRuntime loaded rfl unready
    rw [called]
    exact loaded
  | teardown => rw [call_teardown_early host _ loaded (by simp), loaded]
  | state => rw [call_state host _ loaded, loaded]

theorem Stands.succeeded (stands : session.Stands family env .notStarted) (visit : Visit σ)
    (succeeds : visit.Succeeds env host) :
    (visit.pay host family session).2.Stands family env .done := by
  obtain ⟨kind, ready⟩ := succeeds
  have ready : { env with resolver := visit.resolver, state := .notStarted }.Ready host
      (visit.arrive family session).outside.memory := ready
  obtain ⟨token, launch, _, marked⟩ :=
    call_ready host visit.inRuntime (stands.arrive visit) rfl ready
  refine ⟨visit.resolver, ?_⟩
  rw [Visit.pay, kind]
  exact marked

/-- A setup that has completed is never taken back. -/
theorem Stands.finished (stands : session.Stands family env state) (visit : Visit σ)
    (finished : state = .done ∨ state = .tornDown) :
    ∃ after, (after = .done ∨ after = .tornDown) ∧
      (visit.pay host family session).2.Stands family env after := by
  have loaded := stands.arrive visit
  unfold Visit.pay
  cases kind : visit.call with
  | setup =>
    rw [call_setup_late host _ loaded (by rcases finished with rfl | rfl <;> simp)]
    exact ⟨state, finished, visit.resolver, loaded⟩
  | teardown =>
    rcases finished with rfl | rfl
    · exact ⟨.tornDown, .inr rfl, visit.resolver, call_teardown_done host _ loaded rfl⟩
    · rw [call_teardown_early host _ loaded (by simp)]
      exact ⟨.tornDown, .inr rfl, visit.resolver, loaded⟩
  | state =>
    rw [call_state host _ loaded]
    exact ⟨state, finished, visit.resolver, loaded⟩

theorem visited_over (visits : List (Visit σ)) (stands : session.Stands family env state)
    (finished : state = .done ∨ state = .tornDown) :
    ∃ after, (after = .done ∨ after = .tornDown) ∧
      (visited host family visits session).Stands family env after := by
  induction visits generalizing session state with
  | nil => exact ⟨state, finished, stands⟩
  | cons visit rest ih =>
    obtain ⟨after, finished, stands⟩ := stands.finished host visit finished
    exact ih stands finished

/-- The environment is fresh before the first setup that succeeds, and done for good after. -/
theorem visited_stands (visits : List (Visit σ)) (stands : session.Stands family env .notStarted) :
    ((∀ visit ∈ visits, ¬ visit.Succeeds env host) →
      (visited host family visits session).Stands family env .notStarted) ∧
    ((∃ visit ∈ visits, visit.Succeeds env host) →
      ∃ after, (after = .done ∨ after = .tornDown) ∧
        (visited host family visits session).Stands family env after) := by
  induction visits generalizing session with
  | nil => simpa [visited] using stands
  | cons visit rest ih =>
    by_cases succeeds : visit.Succeeds env host
    · refine ⟨fun none => absurd succeeds (none visit List.mem_cons_self), fun _ => ?_⟩
      exact visited_over host rest (stands.succeeded host visit succeeds) (.inl rfl)
    · have later := ih (stands.failed host visit succeeds)
      simpa [succeeds, visited] using later

end Visits

/-- Setups that fail leave nothing behind. As long as none has met a host with all it needs,
each is refused after some questions that are all it has done, and a teardown does nothing; the
first that meets such a host completes; after that every setup is turned away and does nothing,
also after a teardown. -/
theorem failed_setups_leave_nothing (host : Host σ) {session : Session σ τ}
    (loaded : session.hooks.get family = some env) (fresh : env.state = .notStarted)
    (earlier : List (Visit σ)) (visit : Visit σ) :
    let before := visit.arrive family (visited host family earlier session)
    let answer := before.call host visit.inRuntime family visit.call
    ((∀ past ∈ earlier, ¬ past.Succeeds env host) →
      before.state? family = some .notStarted ∧
      (visit.call = .setup → ¬ visit.Succeeds env host →
        ∃ outcome requests, answer = (.setup outcome, before.asked host requests) ∧
          (∀ request ∈ requests, isQuestion request = true) ∧
          (outcome = .policyDenied ∨ ∃ what, outcome = .capabilityUnavailable what)) ∧
      (visit.Succeeds env host →
        (∃ token launch, answer.1 = .setup (.completed token launch)) ∧
        answer.2.state? family = some .done) ∧
      (visit.call = .teardown → answer = (.teardown .notSetUp, before))) ∧
    ((∃ past ∈ earlier, past.Succeeds env host) → visit.call = .setup →
      answer = (.setup .alreadyInitialized, before)) := by
  intro before answer
  have start : session.Stands family env .notStarted := ⟨env.resolver, by rw [loaded, ← fresh]⟩
  obtain ⟨untouched, settled⟩ := visited_stands host earlier start
  constructor
  · intro none
    have now : before.hooks.get family =
        some { env with resolver := visit.resolver, state := .notStarted } :=
      (untouched none).arrive visit
    refine ⟨by simp [state?, now], ?_, ?_, ?_⟩
    · intro kind fails
      have unready : ¬ { env with resolver := visit.resolver, state := .notStarted }.Ready host
          before.outside.memory := fun ready => fails ⟨kind, ready⟩
      have refused := call_unready host visit.inRuntime now rfl unready
      rwa [← kind] at refused
    · rintro ⟨kind, ready⟩
      obtain ⟨token, launch, completed, marked⟩ := call_ready host visit.inRuntime now rfl ready
      rw [← kind] at completed marked
      exact ⟨⟨token, launch, completed⟩, by simp [state?, answer, marked]⟩
    · intro kind
      have nothing := call_teardown_early host visit.inRuntime now (by simp)
      rwa [← kind] at nothing
  · intro some kind
    obtain ⟨state, finished, stands⟩ := settled some
    have late : state ≠ .notStarted := by rcases finished with rfl | rfl <;> simp
    have refused := call_setup_late host visit.inRuntime (stands.arrive visit) late
    rwa [← kind] at refused

/-- A setup of the rehearsed environment, with the test-mode parameter at this value. -/
def rehearsedVisit (mode : String) (call : Call) : Visit Rehearsal.Stage :=
  ⟨call, true,
    { rehearsal.outside.memory with
      parameters := [("s", [("persist.ace.testmode.enabled", mode)])] }, rehearsed.resolver⟩

theorem rehearsedVisit_fails {mode : String} (off : mode ≠ "1") (call : Call) :
    ¬ (rehearsedVisit mode call).Succeeds rehearsed Rehearsal.stageHost := by
  rintro ⟨_, admitted, _⟩
  obtain ⟨provider, present, enabled⟩ := admitted rfl
  obtain rfl : "s" = provider := by
    have found : rehearsed.resolver.parameters = some "s" := by decide +kernel
    exact Option.some.inj (found.symm.trans present)
  exact off enabled

theorem rehearsedVisit_succeeds :
    (rehearsedVisit "1" .setup).Succeeds rehearsed Rehearsal.stageHost := by
  refine ⟨rfl, fun _ => ⟨"s", by decide +kernel, rfl⟩, by decide +kernel, by decide +kernel⟩

/-- Two refused setups with a teardown between them, a setup that completes, and one more after
a teardown. -/
theorem refused_then_completed_once :
    let refused := [rehearsedVisit "0" .setup, rehearsedVisit "" .teardown,
      rehearsedVisit "true" .setup]
    let succeeding := rehearsedVisit "1" .setup
    let finished := refused ++ [succeeding, rehearsedVisit "1" .teardown]
    (rehearsal.hooks.get .ui = some rehearsed ∧ rehearsed.state = .notStarted) ∧
    (∃ token launch, (succeeding.pay Rehearsal.stageHost .ui
      (visited Rehearsal.stageHost .ui refused rehearsal)).1 =
        .setup (.completed token launch)) ∧
    (succeeding.pay Rehearsal.stageHost .ui
      (visited Rehearsal.stageHost .ui finished rehearsal)).1 = .setup .alreadyInitialized := by
  intro refused succeeding finished
  have loaded : rehearsal.hooks.get .ui = some rehearsed := rfl
  have fresh : rehearsed.state = .notStarted := rfl
  have none : ∀ past ∈ refused, ¬ past.Succeeds rehearsed Rehearsal.stageHost := by
    intro past member
    simp only [refused, List.mem_cons, List.not_mem_nil, or_false] at member
    rcases member with rfl | rfl | rfl <;> exact rehearsedVisit_fails (by decide) _
  have completes := (failed_setups_leave_nothing Rehearsal.stageHost loaded fresh refused
    succeeding).1 none
  have turnedAway := (failed_setups_leave_nothing Rehearsal.stageHost loaded fresh finished
    succeeding).2 ⟨succeeding, by simp [finished], rehearsedVisit_succeeds⟩ rfl
  exact ⟨⟨loaded, fresh⟩, (completes.2.2.1 rehearsedVisit_succeeds).1,
    congrArg Prod.fst turnedAway⟩

end Session
end Rendezvous

import Rendezvous.Proofs.SetupRun

/-! Calls that a module makes from inside its callback. Whatever they do, they only add to the
log and start no command; those on the environment that is being set up are turned away. -/
namespace Rendezvous

/-- The answer to a call on an environment whose setup is under way. -/
def Call.refusal : Call → CallResult
  | .setup => .setup .alreadyInitialized
  | .teardown => .teardown .notSetUp
  | .state => .state .inProgress

/-- A launch's command has started or ended. -/
def Event.ofCommand : Event → Bool
  | .started .. | .ended _ => true
  | _ => false

namespace Session

/-- Calls leave the commands alone, and only add to the log, nothing about commands. -/
structure Grows (before after : Session σ τ) : Prop where
  commands : after.outside.commands = before.outside.commands
  log : ∃ more, after.outside.log = before.outside.log ++ more ∧
    ∀ event ∈ more, event.ofCommand = false

theorem Grows.refl (session : Session σ τ) : Grows session session :=
  ⟨rfl, [], by simp, by simp⟩

theorem record_grows (session : Session σ τ) (event : Event) (call : event.ofCommand = false) :
    Grows session { session with outside := session.outside.record event } :=
  ⟨rfl, [event], rfl, by simpa using call⟩

theorem Grows.trans {first second third : Session σ τ} (one : Grows first second)
    (two : Grows second third) : Grows first third := by
  obtain ⟨earlier, earlierLog, earlierCalls⟩ := one.log
  obtain ⟨later, laterLog, laterCalls⟩ := two.log
  refine ⟨two.commands.trans one.commands, earlier ++ later, by simp [laterLog, earlierLog], ?_⟩
  intro event member
  rcases List.mem_append.mp member with member | member
  · exact earlierCalls event member
  · exact laterCalls event member

/-- A re-entrant call, put on record when it returns. -/
def reentrant (host : Host σ) (inRuntime : Bool) (background : Session σ τ → Session σ τ)
    (depth : Nat) (family : Family) (call : Call) (session : Session σ τ) : Session σ τ :=
  let (result, session) := callWithin host inRuntime background depth family call session
  { session with outside := session.outside.record (.reentrant family call result) }

theorem callWithin_succ (host : Host σ) (inRuntime : Bool)
    (background : Session σ τ → Session σ τ) (depth : Nat) :
    callWithin host inRuntime background (depth + 1) =
      callWith host inRuntime background (reentrant host inRuntime background depth) := rfl

section Growth

variable {host : Host σ} {inRuntime : Bool}
  {callback : Family → Call → Session σ τ → Session σ τ}

theorem asked_grows (host : Host σ) (requests : List Request) (session : Session σ τ) :
    Grows session (session.asked host requests) := by
  refine ⟨rfl, requests.map .asked, rfl, ?_⟩
  intro event member
  obtain ⟨request, _, rfl⟩ := List.mem_map.mp member
  rfl

theorem reenter_grows
    (each : ∀ family call session, Grows session (callback family call session))
    (calls : List (Family × Call)) (session : Session σ τ) :
    Grows session (reenter callback calls session) := by
  induction calls generalizing session with
  | nil => exact .refl session
  | cons call rest ih => exact (each call.1 call.2 session).trans (ih _)

theorem perform_grows
    (each : ∀ family call session, Grows session (callback family call session))
    (family : Family) (action : Action) (session : Session σ τ) :
    Grows session (perform host inRuntime callback family action session).2 := by
  cases action with
  | guard op =>
    simp only [perform]
    split
    · exact .refl session
    · exact ⟨rfl, [], by simp, by simp⟩
  | ask request =>
    cases request with
    | schedule module token =>
      rw [perform_schedule]
      exact (asked_grows ..).trans (reenter_grows each ..)
    | _ => exact asked_grows host [_] session
  | launch => exact ⟨rfl, [], by simp [perform], by simp⟩

theorem callWith_grows
    (each : ∀ family call session, Grows session (callback family call session))
    (family : Family) (call : Call) (session : Session σ τ) :
    Grows session (callWith host inRuntime id callback family call session).2 := by
  have run {α : Type} (program : Program α) (session : Session σ τ) :
      Grows session (program.run (perform host inRuntime callback family) session).2 :=
    Program.run_chains .refl (fun _ _ _ => .trans) (perform_grows each family) program session
  unfold callWith
  split
  · exact .refl session
  · rename_i env _
    cases call with
    | setup => exact run env.setup session
    | teardown => exact run env.teardown session
    | state => exact .refl session

theorem callWithin_grows (depth : Nat) (family : Family) (call : Call) (session : Session σ τ) :
    Grows session (callWithin host inRuntime id depth family call session).2 := by
  induction depth generalizing family call session with
  | zero => exact callWith_grows (fun _ _ session => .refl session) family call session
  | succ depth ih =>
    refine callWith_grows ?_ family call session
    intro family call session
    exact (ih family call session).trans (record_grows _ _ rfl)

theorem reentrant_grows (depth : Nat) (family : Family) (call : Call) (session : Session σ τ) :
    Grows session (reentrant host inRuntime id depth family call session) :=
  (callWithin_grows depth family call session).trans (record_grows _ _ rfl)

end Growth

section Refusal

variable (host : Host σ) (inRuntime : Bool) {family : Family} (session : Session σ τ)
  {env : Environment}

/-- A guard operation away from its source changes nothing. -/
theorem perform_guard_foreign (callback : Family → Call → Session σ τ → Session σ τ)
    (loaded : session.hooks.get family = some env) (op : GuardOp)
    (foreign : env.state ≠ op.source) :
    perform host inRuntime callback family (.guard op) session = (false, session) := by
  have same : session.hooks.set family (some env) = session.hooks := ByFamily.set_of_get loaded
  simp [perform, loaded, SetupState.apply, foreign, same]

/-- A setup that finds the guard taken asks nothing. -/
theorem callWith_setup_late {background : Session σ τ → Session σ τ}
    (still : ∀ session, (background session).hooks = session.hooks)
    (callback : Family → Call → Session σ τ → Session σ τ)
    (loaded : session.hooks.get family = some env) (late : env.state ≠ .notStarted) :
    callWith host inRuntime background callback family .setup session =
      (.setup .alreadyInitialized, background session) := by
  have kept : (background session).hooks.get family = some env := by rw [still, loaded]
  simp only [callWith, loaded, Environment.setup, Program.guard]
  rw [Program.run_perform, perform_guard_foreign host inRuntime _ callback kept .tryBegin late]
  rfl

/-- A teardown that finds no completed setup asks nothing. -/
theorem callWith_teardown_early {background : Session σ τ → Session σ τ}
    (still : ∀ session, (background session).hooks = session.hooks)
    (callback : Family → Call → Session σ τ → Session σ τ)
    (loaded : session.hooks.get family = some env) (early : env.state ≠ .done) :
    callWith host inRuntime background callback family .teardown session =
      (.teardown .notSetUp, background session) := by
  have kept : (background session).hooks.get family = some env := by rw [still, loaded]
  simp only [callWith, loaded, Environment.teardown, Program.guard]
  rw [Program.run_perform, perform_guard_foreign host inRuntime _ callback kept .tryTeardown early]
  rfl

/-- A call on an environment that is being set up is turned away, and nothing happens. -/
theorem callWith_refused (callback : Family → Call → Session σ τ → Session σ τ)
    (loaded : session.hooks.get family = some env) (busy : env.state = .inProgress)
    (call : Call) :
    callWith host inRuntime id callback family call session = (call.refusal, session) := by
  cases call with
  | setup =>
    exact callWith_setup_late host inRuntime session (fun _ => rfl) callback loaded
      (by simp [busy])
  | teardown =>
    exact callWith_teardown_early host inRuntime session (fun _ => rfl) callback loaded
      (by simp [busy])
  | state => simp [callWith, loaded, Call.refusal, busy]

theorem reentrant_refused (depth : Nat) (loaded : session.hooks.get family = some env)
    (busy : env.state = .inProgress) (call : Call) :
    reentrant host inRuntime id depth family call session =
      { session with
        outside := session.outside.record (.reentrant family call call.refusal) } := by
  cases depth with
  | zero =>
    simp [reentrant, callWithin, callWith_refused host inRuntime session _ loaded busy]
  | succ depth =>
    simp [reentrant, callWithin, callWith_refused host inRuntime session _ loaded busy]

theorem reenter_refused (depth : Nat) (loaded : session.hooks.get family = some env)
    (busy : env.state = .inProgress) (calls : List (Family × Call))
    (own : ∀ call ∈ calls, call.1 = family) :
    reenter (reentrant host inRuntime id depth) calls session =
      { session with
        outside.log := session.outside.log ++
          calls.map fun call => .reentrant family call.2 call.2.refusal } := by
  induction calls generalizing session with
  | nil => simp [reenter]
  | cons call rest ih =>
    obtain ⟨target, call⟩ := call
    obtain rfl : target = family := own _ List.mem_cons_self
    have first := reentrant_refused host inRuntime session depth loaded busy call
    have others := ih (reentrant host inRuntime id depth target call session)
      (by rw [first]; exact loaded) fun call member => own call (List.mem_cons_of_mem _ member)
    rw [first] at others
    simpa [reenter, first, Outside.record] using others

end Refusal
/-- No setup of the family can begin: it is not loaded, or a setup of it is under way. -/
def Barred (session : Session σ τ) (family : Family) : Prop :=
  ∀ env, session.hooks.get family = some env → env.state = .inProgress

/-- The environment of a family stays as it is, if no setup of it can begin. -/
def KeepsFor (family : Family) (before after : Session σ τ) : Prop :=
  before.Barred family → after.hooks.get family = before.hooks.get family

theorem KeepsFor.of_hooks {before after : Session σ τ} (same : after.hooks = before.hooks) :
    KeepsFor family before after := fun _ => by rw [same]

theorem KeepsFor.barred {before after : Session σ τ} (keeps : KeepsFor family before after)
    (barred : before.Barred family) : after.Barred family := by
  intro env loaded
  rw [keeps barred] at loaded
  exact barred env loaded

theorem KeepsFor.trans {first second third : Session σ τ} (one : KeepsFor family first second)
    (two : KeepsFor family second third) : KeepsFor family first third := by
  intro barred
  rw [two (one.barred barred), one barred]

/-- Every environment on which no setup can begin stays as it is. -/
def Keeps (before after : Session σ τ) : Prop := ∀ family, KeepsFor family before after

theorem Keeps.of_hooks {before after : Session σ τ} (same : after.hooks = before.hooks) :
    Keeps before after := fun _ => .of_hooks same

theorem Keeps.trans {first second third : Session σ τ} (one : Keeps first second)
    (two : Keeps second third) : Keeps first third := fun family => (one family).trans (two family)

section Keeping

variable {host : Host σ} {inRuntime : Bool} {background : Session σ τ → Session σ τ}
  {callback : Family → Call → Session σ τ → Session σ τ}

theorem reenter_keeps
    (each : ∀ family call session, Keeps session (callback family call session))
    (calls : List (Family × Call)) (session : Session σ τ) :
    Keeps session (reenter callback calls session) := by
  induction calls generalizing session with
  | nil => exact .of_hooks rfl
  | cons call rest ih => exact (each call.1 call.2 session).trans (ih _)

/-- An action on one environment leaves those of other families to the callbacks. -/
theorem perform_keepsFor
    (each : ∀ family call session, Keeps session (callback family call session))
    {family other : Family} (apart : other ≠ family) (action : Action) (session : Session σ τ) :
    KeepsFor other session (perform host inRuntime callback family action session).2 := by
  cases action with
  | guard op =>
    simp only [perform]
    split
    · exact .of_hooks rfl
    · exact fun _ => ByFamily.get_set_other apart ..
  | ask request =>
    cases request with
    | schedule module token =>
      rw [perform_schedule]
      exact reenter_keeps each _ (session.asked host [.schedule module token]) other
    | _ => exact .of_hooks rfl
  | launch => exact .of_hooks rfl

/-- A call keeps what is barred: it is turned away there, and elsewhere it acts on its own
environment alone. -/
theorem callWith_keeps (still : ∀ session, (background session).hooks = session.hooks)
    (each : ∀ family call session, Keeps session (callback family call session))
    (family : Family) (call : Call) (session : Session σ τ) :
    Keeps session (callWith host inRuntime background callback family call session).2 := by
  intro other
  have run {α : Type} (program : Program α) (apart : other ≠ family) :
      KeepsFor other session (program.run (fun action session =>
        perform host inRuntime callback family action (background session)) session).2 := by
    refine Program.run_chains (fun _ => .of_hooks rfl) (fun _ _ _ => .trans) ?_ program session
    intro action session
    exact (KeepsFor.of_hooks (still session)).trans (perform_keepsFor each apart action _)
  cases loaded : session.hooks.get family with
  | none => simpa [callWith, loaded] using .of_hooks rfl
  | some env =>
    by_cases same : other = family
    · subst same
      intro barred
      have busy : env.state = .inProgress := barred env loaded
      cases call with
      | setup => rw [callWith_setup_late host _ _ still _ loaded (by simp [busy]), still]
      | teardown => rw [callWith_teardown_early host _ _ still _ loaded (by simp [busy]), still]
      | state => simp [callWith, loaded]
    · cases call with
      | setup => simpa [callWith, loaded] using run env.setup same
      | teardown => simpa [callWith, loaded] using run env.teardown same
      | state => simpa [callWith, loaded] using .of_hooks rfl

theorem callWithin_keeps (still : ∀ session, (background session).hooks = session.hooks)
    (depth : Nat) (family : Family) (call : Call) (session : Session σ τ) :
    Keeps session (callWithin host inRuntime background depth family call session).2 := by
  induction depth generalizing family call session with
  | zero => exact callWith_keeps still (fun _ _ _ => .of_hooks rfl) family call session
  | succ depth ih =>
    refine callWith_keeps still ?_ family call session
    intro family call session
    exact ih family call session

theorem reentrant_keeps (still : ∀ session, (background session).hooks = session.hooks)
    (depth : Nat) (family : Family) (call : Call) (session : Session σ τ) :
    Keeps session (reentrant host inRuntime background depth family call session) :=
  callWithin_keeps still depth family call session

end Keeping

end Session
end Rendezvous

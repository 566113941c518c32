import Rendezvous.Proofs.AttemptShape

/-! Ownership of the guard. The guard has no owner field; that only the caller that began
completes or aborts is an invariant over all callers. It ties the phase of the environment to
what each caller still has to do, and is kept by every move. -/
namespace Rendezvous.Interleaving

/-- An attempt that asks questions and then either comes back without a connection or hands
over one token, launches with it and reports it. -/
inductive Orderly (module : Handle) : Program SetupOutcome → Prop where
  | giveUp (incomplete : outcome.isCompleted = false) (admitted : outcome ≠ .alreadyInitialized) :
      Orderly module (.finish outcome)
  | ask {request : Request} {next : request.Answer → Program SetupOutcome}
      (question : isQuestion request = true) (rest : ∀ answer, Orderly module (next answer)) :
      Orderly module (.act (.ask request) next)
  | schedule {next : List (Family × Call) → Program SetupOutcome}
      (rest : ∀ calls, next calls =
        .act (.launch launcher registry token) fun launch => .finish (.completed token launch)) :
      Orderly module (.act (.ask (.schedule module token)) next)

theorem connects_orderly {env : Environment} {attempt : Program SetupOutcome}
    (connects : env.Connects attempt) : Orderly env.module attempt := by
  induction connects with
  | giveUp incomplete admitted => exact .giveUp incomplete admitted
  | ask question _ ih => exact .ask question ih
  | handOver token => exact .schedule fun _ => rfl

theorem attempt_orderly (env : Environment) : Orderly env.module env.attempt :=
  connects_orderly env.attempt_connects

/-- What a setup still has to do from within its attempt. -/
def concluding (attempt : Program SetupOutcome) : Program CallResult :=
  (attempt.bind Environment.conclude).bind fun outcome => .finish (.setup outcome)

@[simp] theorem concluding_finish (outcome : SetupOutcome) :
    concluding (.finish outcome) =
      .act (.guard (if outcome.isCompleted then .complete else .abort))
        fun _ => .finish (.setup outcome) := rfl

@[simp] theorem concluding_act (action : Action) (next : action.Answer → Program SetupOutcome) :
    concluding (.act action next) = .act action fun answer => concluding (next answer) := rfl

theorem program_setup (env : Environment) (guard : SetupState) :
    program env guard .setup = .act (.guard .tryBegin) fun began =>
      if began then concluding env.attempt else .finish (.setup .alreadyInitialized) := by
  simp only [program, Environment.setup, Program.guard, Program.perform, bind, pure, Program.bind,
    concluding]
  congr 1
  funext began
  cases began <;> rfl

theorem program_teardown (env : Environment) (guard : SetupState) :
    program env guard .teardown = .act (.guard .tryTeardown) fun closing =>
      if closing then .act (.ask (.dispose env.module)) fun _ => .finish (.teardown .tornDown)
      else .finish (.teardown .notSetUp) := by
  simp only [program, Environment.teardown, Program.guard, Program.perform, bind, pure,
    Program.bind]
  congr 1
  funext closing
  cases closing <;> rfl

/-- The part that one caller plays in a phase. -/
inductive Role where
  | bystander
  | holding
  | scheduling (token : Token)
  | scheduled (token : Token)
  | launched (token : Token)
  | completed
  | closing
  | disposing
  | closed

def Phase.role (caller : Nat) : Phase → Role
  | .idle => .bystander
  | .held owner => if caller = owner then .holding else .bystander
  | .scheduling owner token => if caller = owner then .scheduling token else .bystander
  | .scheduled owner token => if caller = owner then .scheduled token else .bystander
  | .launched owner token => if caller = owner then .launched token else .bystander
  | .done owner => if caller = owner then .completed else .bystander
  | .closing owner closer =>
    if caller = owner then .completed else if caller = closer then .closing else .bystander
  | .disposing owner closer =>
    if caller = owner then .completed else if caller = closer then .disposing else .bystander
  | .closed owner closer =>
    if caller = owner then .completed else if caller = closer then .closed else .bystander

/-- What a caller in a role has done and has still to do. -/
inductive Fits (env : Environment) : Role → List Deed → Caller → Prop where
  | coming (guard : SetupState) (call : Call) :
      Fits env .bystander [] ⟨program env guard call, false⟩
  | late : Fits env .bystander [.guard .tryBegin false]
      ⟨.finish (.setup .alreadyInitialized), false⟩
  | early : Fits env .bystander [.guard .tryTeardown false]
      ⟨.finish (.teardown .notSetUp), false⟩
  | gaveUp (incomplete : outcome.isCompleted = false) (admitted : outcome ≠ .alreadyInitialized) :
      Fits env .bystander own ⟨.finish (.setup outcome), false⟩
  | attempting (orderly : Orderly env.module attempt) :
      Fits env .holding own ⟨concluding attempt, false⟩
  | asking {request : Request} {next : request.Answer → Program SetupOutcome}
      (question : isQuestion request = true) (rest : ∀ answer, Orderly env.module (next answer)) :
      Fits env .holding own ⟨concluding (.act (.ask request) next), true⟩
  | scheduling {next : List (Family × Call) → Program SetupOutcome}
      (rest : ∀ calls, next calls =
        .act (.launch launcher registry token) fun launch => .finish (.completed token launch)) :
      Fits env (.scheduling token) own
        ⟨concluding (.act (.ask (.schedule env.module token)) next), true⟩
  | scheduled (launcher : Launcher) (registry : Option Handle) :
      Fits env (.scheduled token) own ⟨concluding (.act (.launch launcher registry token)
        fun launch => .finish (.completed token launch)), false⟩
  | launched (launch : LaunchId) :
      Fits env (.launched token) own ⟨concluding (.finish (.completed token launch)), false⟩
  | completed (token : Token) (launch : LaunchId) :
      Fits env .completed own ⟨.finish (.setup (.completed token launch)), false⟩
  | closing : Fits env .closing own
      ⟨.act (.ask (.dispose env.module)) fun _ => .finish (.teardown .tornDown), false⟩
  | disposing : Fits env .disposing own
      ⟨.act (.ask (.dispose env.module)) fun _ => .finish (.teardown .tornDown), true⟩
  | closed : Fits env .closed own ⟨.finish (.teardown .tornDown), false⟩

namespace Phase

variable {phase : Phase} {caller : Nat} {token : Token}

theorem role_holding (role : phase.role caller = .holding) : phase = .held caller := by
  cases phase <;> grind [Phase.role]

theorem role_scheduling (role : phase.role caller = .scheduling token) :
    phase = .scheduling caller token := by
  cases phase <;> grind [Phase.role]

theorem role_scheduled (role : phase.role caller = .scheduled token) :
    phase = .scheduled caller token := by
  cases phase <;> grind [Phase.role]

theorem role_launched (role : phase.role caller = .launched token) :
    phase = .launched caller token := by
  cases phase <;> grind [Phase.role]

theorem role_closing (role : phase.role caller = .closing) :
    ∃ owner, caller ≠ owner ∧ phase = .closing owner caller := by
  cases phase <;> grind [Phase.role]

theorem role_disposing (role : phase.role caller = .disposing) :
    ∃ owner, caller ≠ owner ∧ phase = .disposing owner caller := by
  cases phase <;> grind [Phase.role]

theorem role_completed (role : phase.role caller = .completed) : phase.owner? = some caller := by
  cases phase <;> grind [Phase.role, Phase.owner?]

theorem role_closed (role : phase.role caller = .closed) : phase.closer? = some caller := by
  cases phase <;> grind [Phase.role, Phase.closer?]

end Phase

/-- A step that the course admits, with what it leaves to the caller and to all others. -/
def Admitted (env : Environment) (phase : Phase) (caller : Nat) (own : List Deed)
    (guard : SetupState) (now : Caller) (deed : Deed) : Prop :=
  ∃ after, Next env.module phase ⟨caller, deed⟩ after ∧ after.guard = guard ∧
    Fits env (after.role caller) (own ++ [deed]) now ∧
    ∀ other, other ≠ caller → after.role other = phase.role other

theorem setup_admitted (env : Environment) (phase : Phase) (caller : Nat)
    (role : phase.role caller = .bystander) :
    Admitted env phase caller [] (phase.guard.apply .tryBegin).2
      ⟨if (phase.guard.apply .tryBegin).1 then concluding env.attempt
        else .finish (.setup .alreadyInitialized), false⟩
      (.guard .tryBegin (phase.guard.apply .tryBegin).1) := by
  by_cases free : phase.guard = .notStarted
  · obtain rfl : phase = .idle := by cases phase <;> simp_all [Phase.guard]
    refine ⟨.held caller, .begin, rfl, ?_, ?_⟩
    · simpa [Phase.role, Phase.guard, SetupState.apply, GuardOp.source] using
        Fits.attempting (attempt_orderly env)
    · intro other different
      simp [Phase.role, different]
  · have refused : phase.guard.apply .tryBegin = (false, phase.guard) := by
      simp [SetupState.apply, GuardOp.source, free]
    rw [refused]
    exact ⟨phase, .late free, rfl, role ▸ .late, fun _ _ => rfl⟩

theorem teardown_admitted (env : Environment) (phase : Phase) (caller : Nat)
    (role : phase.role caller = .bystander) :
    Admitted env phase caller [] (phase.guard.apply .tryTeardown).2
      ⟨if (phase.guard.apply .tryTeardown).1 then
          .act (.ask (.dispose env.module)) fun _ => .finish (.teardown .tornDown)
        else .finish (.teardown .notSetUp), false⟩
      (.guard .tryTeardown (phase.guard.apply .tryTeardown).1) := by
  by_cases ready : phase.guard = .done
  · obtain ⟨owner, rfl⟩ : ∃ owner, phase = .done owner := by
      cases phase <;> simp_all [Phase.guard]
    -- The owner's call has returned, so the closer is somebody else.
    have apart : caller ≠ owner := by
      intro same
      simp [Phase.role, same] at role
    refine ⟨.closing owner caller, .close apart, rfl, ?_, ?_⟩
    · simpa [Phase.role, Phase.guard, SetupState.apply, GuardOp.source, apart] using Fits.closing
    · intro other different
      simp [Phase.role, different]
  · have refused : phase.guard.apply .tryTeardown = (false, phase.guard) := by
      simp [SetupState.apply, GuardOp.source, ready]
    rw [refused]
    exact ⟨phase, .early ready, rfl, role ▸ .early, fun _ _ => rfl⟩

/-- The steps of a setup that is about to begin its next action within its attempt. -/
theorem attempt_admitted (env : Environment) (caller : Nat) (own : List Deed)
    {guard : SetupState} (orderly : Orderly env.module attempt)
    (stepped : Caller.step surroundings .inProgress ⟨concluding attempt, false⟩ =
      some (guard, now, deed)) :
    Admitted env (.held caller) caller own guard now deed := by
  cases orderly with
  | giveUp incomplete admitted =>
    obtain ⟨rfl, rfl, rfl⟩ := by
      simpa [Caller.step, SetupState.apply, GuardOp.source, GuardOp.target, incomplete]
        using stepped
    exact ⟨.idle, .giveUp, rfl, .gaveUp incomplete admitted, by simp +contextual [Phase.role]⟩
  | ask question rest =>
    obtain ⟨rfl, rfl, rfl⟩ := by simpa [Caller.step] using stepped
    refine ⟨.held caller, .ask question, rfl, ?_, fun _ _ => rfl⟩
    simpa [Phase.role] using Fits.asking question rest
  | schedule rest =>
    obtain ⟨rfl, rfl, rfl⟩ := by simpa [Caller.step] using stepped
    refine ⟨.scheduling caller _, .schedule, rfl, ?_, by simp +contextual [Phase.role]⟩
    simpa [Phase.role] using Fits.scheduling rest

/-- Every step that a caller can take in its role is one the course admits. -/
theorem Fits.step (fits : Fits env role own caller) (phase : Phase) (id : Nat)
    {guard : SetupState} (plays : phase.role id = role)
    (stepped : caller.step surroundings phase.guard = some (guard, now, deed)) :
    Admitted env phase id own guard now deed := by
  cases fits with
  | coming arrival call =>
    cases call with
    | setup =>
      rw [program_setup] at stepped
      obtain ⟨rfl, rfl, rfl⟩ := by simpa [Caller.step, -SetupState.apply_fst] using stepped
      exact setup_admitted env phase id plays
    | teardown =>
      rw [program_teardown] at stepped
      obtain ⟨rfl, rfl, rfl⟩ := by simpa [Caller.step, -SetupState.apply_fst] using stepped
      exact teardown_admitted env phase id plays
    | state => simp [program, Caller.step] at stepped
  | late | early | gaveUp | completed | closed => simp [Caller.step] at stepped
  | attempting orderly =>
    obtain rfl := Phase.role_holding plays
    exact attempt_admitted env id own orderly stepped
  | asking question rest =>
    obtain rfl := Phase.role_holding plays
    obtain ⟨rfl, rfl, rfl⟩ := by simpa [Caller.step] using stepped
    refine ⟨.held id, .learn question, rfl, ?_, fun _ _ => rfl⟩
    simpa [Phase.role] using Fits.attempting (rest _)
  | scheduling rest =>
    obtain rfl := Phase.role_scheduling plays
    obtain ⟨rfl, rfl, rfl⟩ := by simpa [Caller.step] using stepped
    refine ⟨.scheduled id _, .scheduled, rfl, ?_, by simp +contextual [Phase.role]⟩
    rw [rest]
    simpa [Phase.role] using Fits.scheduled ..
  | scheduled launcher registry =>
    obtain rfl := Phase.role_scheduled plays
    obtain ⟨rfl, rfl, rfl⟩ := by simpa [Caller.step] using stepped
    refine ⟨.launched id _, .launch, rfl, ?_, by simp +contextual [Phase.role]⟩
    simpa [Phase.role] using Fits.launched ..
  | launched launch =>
    obtain rfl := Phase.role_launched plays
    obtain ⟨rfl, rfl, rfl⟩ := by
      simpa [Caller.step, Phase.guard, SetupState.apply, GuardOp.source, GuardOp.target,
        SetupOutcome.isCompleted] using stepped
    refine ⟨.done id, .complete, rfl, ?_, by simp +contextual [Phase.role]⟩
    simpa [Phase.role] using Fits.completed ..
  | closing =>
    obtain ⟨owner, apart, rfl⟩ := Phase.role_closing plays
    obtain ⟨rfl, rfl, rfl⟩ := by simpa [Caller.step] using stepped
    refine ⟨.disposing owner id, .dispose, rfl, ?_, by simp +contextual [Phase.role]⟩
    simpa [Phase.role, apart] using Fits.disposing
  | disposing =>
    obtain ⟨owner, apart, rfl⟩ := Phase.role_disposing plays
    obtain ⟨rfl, rfl, rfl⟩ := by simpa [Caller.step] using stepped
    refine ⟨.closed owner id, .disposed, rfl, ?_, by simp +contextual [Phase.role]⟩
    simpa [Phase.role, apart] using Fits.closed

/-- The invariant: the guard stands as the phase says, the log leads to it, and every caller
has done and still does what its role asks. -/
structure Coherent (env : Environment) (s : State) (phase : Phase) : Prop where
  guard : s.guard = phase.guard
  spells : Spells env.module s.log phase
  fits : ∀ id caller, s.callers[id]? = some caller →
    Fits env (phase.role id) (deeds id s.log) caller
  absent : ∀ id, s.callers.length ≤ id → phase.role id = .bystander ∧ deeds id s.log = []

theorem initial_coherent (env : Environment) : Coherent env initial .idle :=
  ⟨rfl, .nil, by simp [initial], by simp [initial, deeds, Phase.role]⟩

theorem enter_coherent (coherent : Coherent env s phase) (call : Call) :
    Coherent env (move env (.enter call) s) phase := by
  refine ⟨coherent.guard, coherent.spells, ?_, ?_⟩
  · intro id caller found
    simp only [move] at found ⊢
    rcases Nat.lt_trichotomy id s.callers.length with old | rfl | beyond
    · rw [List.getElem?_append_left old] at found
      exact coherent.fits id caller found
    · obtain ⟨role, none⟩ := coherent.absent s.callers.length (Nat.le_refl _)
      obtain rfl : _ = caller := by simpa using found
      rw [role, none]
      exact .coming s.guard call
    · rw [List.getElem?_eq_none (by simp; omega)] at found
      contradiction
  · intro id beyond
    simp only [move, List.length_append, List.length_singleton] at beyond ⊢
    exact coherent.absent id (by omega)

theorem advance_coherent (coherent : Coherent env s phase) (id : Nat)
    (surroundings : Surroundings) :
    ∃ after, Coherent env (move env (.advance id surroundings) s) after := by
  simp only [move]
  split
  · exact ⟨phase, coherent⟩
  · rename_i guard now deed stepped
    obtain ⟨caller, found, stepped⟩ := Option.bind_eq_some_iff.mp stepped
    have present : id < s.callers.length := (List.getElem?_eq_some_iff.mp found).1
    rw [coherent.guard] at stepped
    obtain ⟨after, next, equal, fits, others⟩ :=
      (coherent.fits id caller found).step phase id rfl stepped
    refine ⟨after, equal.symm, coherent.spells.snoc next, ?_, ?_⟩
    · intro other there known
      by_cases same : other = id
      · subst same
        obtain rfl : now = there := by simpa [present] using known
        simpa using fits
      · rw [List.getElem?_set_ne (Ne.symm same)] at known
        simpa [others other same, Ne.symm same] using coherent.fits other there known
    · intro other beyond
      rw [List.length_set] at beyond
      have different : other ≠ id := by omega
      simpa [others other different, Ne.symm different] using coherent.absent other beyond

/-- Every reachable state is coherent in some phase. -/
theorem execute_coherent (env : Environment) (schedule : List Move) (s : State) (phase : Phase)
    (coherent : Coherent env s phase) :
    ∃ after, Coherent env (execute env schedule s) after := by
  induction schedule generalizing s phase with
  | nil => exact ⟨phase, coherent⟩
  | cons next schedule ih =>
    cases next with
    | enter call => exact ih _ _ (enter_coherent coherent call)
    | advance id surroundings =>
      obtain ⟨after, coherent⟩ := advance_coherent coherent id surroundings
      exact ih _ _ coherent

end Rendezvous.Interleaving

import Rendezvous.Proofs.CallStackJournal
import Rendezvous.Proofs.Reentry

/-! What calls leave of themselves in a session. Whatever happens, the log only grows. The
background adds what launches do and touches no environment. A call on one family touches the
environment of another only through a module that calls across, and then the log says so. -/
namespace Rendezvous

namespace Event

/-- What a module is handed: a token, or the word that it is over. -/
def handed? : Event → Option Request
  | .asked (.schedule module token) => some (.schedule module token)
  | .asked (.dispose module) => some (.dispose module)
  | _ => none

/-- The family on which a module has called from inside its callback. -/
def nested? : Event → Option Family
  | .reentrant family .. => some family
  | _ => none

theorem handed?_of_launch {event : Event} (launch : event.ofCall = false) :
    event.handed? = none := by
  unfold ofCall at launch
  split at launch <;> first | rfl | contradiction

theorem nested?_of_launch {event : Event} (launch : event.ofCall = false) :
    event.nested? = none := by
  unfold ofCall at launch
  split at launch <;> first | rfl | contradiction

end Event

theorem CallStack.Advanced.ofCall {events : List Event}
    (advanced : CallStack.Advanced offer launch stage events) :
    ∀ event ∈ events, event.ofCall = false := by
  cases advanced <;> simp [Event.ofCall]

namespace Session

/-- The environments are as they were, and the log has grown by what launches do. -/
structure Idle (before after : Session σ τ) : Prop where
  hooks : after.hooks = before.hooks
  log : ∃ more, after.outside.log = before.outside.log ++ more ∧
    ∀ event ∈ more, event.ofCall = false

theorem Idle.refl (session : Session σ τ) : Idle session session := ⟨rfl, [], by simp, by simp⟩

theorem Idle.trans {first second third : Session σ τ} (one : Idle first second)
    (two : Idle second third) : Idle first third := by
  obtain ⟨earlier, logged, launches⟩ := one.log
  obtain ⟨later, loggedLater, launchesLater⟩ := two.log
  refine ⟨two.hooks.trans one.hooks, earlier ++ later, ?_, ?_⟩
  · rw [loggedLater, logged, List.append_assoc]
  · intro event member
    exact (List.mem_append.mp member).elim (launches event) (launchesLater event)

theorem progress_idle (host : Host σ) (executor : Executor τ) (launch : LaunchId)
    (session : Session σ τ) : Idle session (Decoupling.progress host executor launch session) := by
  unfold Decoupling.progress
  split
  · exact .refl session
  · rename_i fired _
    obtain ⟨stage, events, _, log, advanced⟩ :=
      CallStack.advance_cases host executor fired session.outside
    exact ⟨rfl, events, log, advanced.ofCall⟩

theorem progressAll_idle (host : Host σ) (executor : Executor τ) (launches : List LaunchId)
    (session : Session σ τ) :
    Idle session (Decoupling.progressAll host executor launches session) := by
  induction launches generalizing session with
  | nil => exact .refl session
  | cons launch rest ih => exact (progress_idle host executor launch session).trans (ih _)

/-- Between two moments of a call on `target` the log has grown, and the environment of another
family has stayed as it was unless a module has called on it. -/
def Spares (target family : Family) (before after : Session σ τ) : Prop :=
  ∃ more, after.outside.log = before.outside.log ++ more ∧
    (target ≠ family → family ∉ more.filterMap Event.nested? →
      after.hooks.get family = before.hooks.get family)

theorem Spares.refl (target family : Family) (session : Session σ τ) :
    Spares target family session session := ⟨[], by simp, fun _ _ => rfl⟩

theorem Spares.trans {target family : Family} {first second third : Session σ τ}
    (one : Spares target family first second) (two : Spares target family second third) :
    Spares target family first third := by
  obtain ⟨earlier, logged, kept⟩ := one
  obtain ⟨later, loggedLater, keptLater⟩ := two
  refine ⟨earlier ++ later, by rw [loggedLater, logged, List.append_assoc], ?_⟩
  intro apart unheard
  simp only [List.filterMap_append, List.mem_append, not_or] at unheard
  rw [keptLater apart unheard.2, kept apart unheard.1]

theorem Idle.spares {before after : Session σ τ} (idle : Idle before after) :
    Spares target family before after := by
  obtain ⟨more, logged, _⟩ := idle.log
  exact ⟨more, logged, fun _ _ => by rw [idle.hooks]⟩

section Calls

variable (host : Host σ) (inRuntime : Bool) {background : Session σ τ → Session σ τ}
  {callback : Family → Call → Session σ τ → Session σ τ} {target family : Family}

theorem reenter_spares
    (each : ∀ other call session, Spares target family session (callback other call session))
    (calls : List (Family × Call)) (session : Session σ τ) :
    Spares target family session (reenter callback calls session) := by
  induction calls generalizing session with
  | nil => exact .refl ..
  | cons call rest ih => exact (each call.1 call.2 session).trans (ih _)

theorem perform_spares
    (each : ∀ other call session, Spares target family session (callback other call session))
    (action : Action) (session : Session σ τ) :
    Spares target family session (perform host inRuntime callback target action session).2 := by
  cases action with
  | guard op =>
    simp only [perform]
    split
    · exact .refl ..
    · exact ⟨[], by simp, fun apart _ => ByFamily.get_set_other apart.symm ..⟩
  | ask request =>
    cases request with
    | schedule module token =>
      have told : Spares target family session (session.asked host [.schedule module token]) :=
        ⟨[.asked (.schedule module token)], rfl, fun _ _ => rfl⟩
      rw [perform_schedule]
      exact told.trans (reenter_spares each ..)
    | _ => exact ⟨[_], rfl, fun _ _ => rfl⟩
  | launch => exact ⟨[], by simp [perform], fun _ _ => rfl⟩

theorem callWith_spares (idle : ∀ session, Idle session (background session))
    (each : ∀ other call session, Spares target family session (callback other call session))
    (call : Call) (session : Session σ τ) :
    Spares target family session
      (callWith host inRuntime background callback target call session).2 := by
  have run {α : Type} (program : Program α) : Spares target family session (program.run
      (fun action session => perform host inRuntime callback target action (background session))
      session).2 := by
    refine Program.run_chains (.refl target family) (fun _ _ _ => .trans) ?_ program session
    intro action session
    exact (idle session).spares.trans (perform_spares host inRuntime each action _)
  unfold callWith
  split
  · exact .refl ..
  · rename_i env _
    cases call with
    | setup => exact run env.setup
    | teardown => exact run env.teardown
    | state => exact .refl ..

/-- A call that came from a callback is on record, so it has touched nothing unsaid. -/
theorem record_spares (other : Family) (call : Call) (result : CallResult)
    {before after : Session σ τ} (spares : Spares other family before after) :
    Spares target family before
      { after with outside := after.outside.record (.reentrant other call result) } := by
  obtain ⟨more, logged, kept⟩ := spares
  refine ⟨more ++ [.reentrant other call result], by simp [Outside.record, logged], ?_⟩
  intro _ unheard
  simp only [List.filterMap_append, List.mem_append, not_or] at unheard
  refine kept ?_ unheard.1
  rintro rfl
  simp [Event.nested?] at unheard

theorem callWithin_spares (idle : ∀ session, Idle session (background session)) (depth : Nat)
    (target family : Family) (call : Call) (session : Session σ τ) :
    Spares target family session
      (callWithin host inRuntime background depth target call session).2 := by
  induction depth generalizing target call session with
  | zero => exact callWith_spares host inRuntime idle (fun _ _ _ => .refl ..) call session
  | succ depth ih =>
    refine callWith_spares host inRuntime idle ?_ call session
    intro other call session
    exact record_spares other call _ (ih other call session)

end Calls

end Session
end Rendezvous

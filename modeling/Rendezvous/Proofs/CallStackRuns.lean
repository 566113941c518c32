import Rendezvous.Proofs.CallStackAnswers
import Rendezvous.Proofs.LaunchDecoupling

/-! Every run of a session is a run of its call stack: each call is entered and stepped through,
and what goes on besides goes on between the steps. -/
namespace Rendezvous.CallStack

variable {hooks : Hooks} (fresh : hooks.Fresh) (host : Host σ) (executor : Executor τ)

theorem execute_append (first second : List (Move σ)) (m : Machine σ τ) :
    execute host executor (first ++ second) m =
      execute host executor second (execute host executor first m) := by
  induction first generalizing m with
  | nil => rfl
  | cons move moves ih => exact ih _

theorem execute_asides (events : List (Aside σ)) (m : Machine σ τ) :
    execute host executor (events.map .aside) m = asides host executor events m := by
  induction events generalizing m with
  | nil => rfl
  | cons event events ih => exact ih _

theorem execute_ticks (pace : Session σ τ → List LaunchId) (n : Nat) (m : Machine σ τ) :
    ∃ moves, execute host executor moves m = ticks host executor pace n m := by
  induction n generalizing m with
  | zero => exact ⟨[], rfl⟩
  | succ n ih =>
    obtain ⟨moves, executed⟩ := ih (tick host executor pace m)
    refine ⟨(breath pace m).map .aside ++ .advance :: moves, ?_⟩
    rw [execute_append, execute_asides]
    exact executed

theorem hold_held (family : Family) (answer : CallResult × Session σ τ) :
    ∃ held, Session.hold family answer = (answer.1, { answer.2 with held }) := by
  obtain ⟨result, session⟩ := answer
  cases result with
  | setup outcome => cases outcome <;> exact ⟨_, rfl⟩
  | _ => exact ⟨_, rfl⟩

/-- Moves that leave a quiet machine quiet, lead the session to another and give these answers. -/
def Leads (host : Host σ) (executor : Executor τ) (m : Machine σ τ) (session : Session σ τ)
    (results : List CallResult) : Prop :=
  ∃ moves, (execute host executor moves m).stack = [] ∧
    (execute host executor moves m).session = session ∧
    answers (execute host executor moves m).journal = answers m.journal ++ results

theorem Leads.hold {host : Host σ} {executor : Executor τ} {m : Machine σ τ}
    {session : Session σ τ} (leads : Leads host executor m session results)
    (held : ByFamily (Option LaunchId)) :
    Leads host executor m { session with held } results := by
  obtain ⟨moves, quiet, reached, told⟩ := leads
  refine ⟨moves ++ [.aside (.hold held)], ?_⟩
  rw [execute_append]
  exact ⟨quiet, by rw [← reached]; rfl, told⟩

section Steps

variable {m : Machine σ τ} (quiet : m.stack = [])

include quiet

theorem asides_lead (events : List (Aside σ)) :
    Leads host executor m (asides host executor events m).session [] := by
  refine ⟨events.map .aside, ?_⟩
  rw [execute_asides, (asides_beside ..).stack, asides_answers, List.append_nil]
  exact ⟨quiet, rfl, rfl⟩

theorem progress_leads (launches : List LaunchId) :
    Leads host executor m (Decoupling.progressAll host executor launches m.session) [] := by
  rw [← asides_session]
  exact asides_lead host executor quiet (launches.map .progress)

theorem run_leads : Leads host executor m (m.session.run host executor) [] := by
  rw [Decoupling.run_eq_progressAll]
  exact progress_leads host executor quiet _

include fresh

theorem call_leads (sound : Sound hooks m) (inRuntime : Bool)
    (pace : Session σ τ → List LaunchId) (family : Family) (call : Call) :
    Leads host executor m
      (m.session.callAmid host inRuntime (goingOn host executor pace) family call).2
      [(m.session.callAmid host inRuntime (goingOn host executor pace) family call).1] := by
  obtain ⟨n, finished, reached, earlier, guard, before, told⟩ :=
    enter_answers host executor pace fresh sound quiet inRuntime family call
  obtain ⟨moves, executed⟩ := execute_ticks host executor pace n (m.enter inRuntime family call)
  have entered : execute host executor (.enter inRuntime family call :: moves) m =
      ticks host executor pace n (m.enter inRuntime family call) := executed
  refine ⟨.enter inRuntime family call :: moves, ?_⟩
  rw [entered, told, answers_append, before]
  exact ⟨finished, reached, rfl⟩

/-- One step of a run, as moves of the machine. -/
theorem step_leads (sound : Sound hooks m) (step : Decoupling.Step σ τ) :
    Leads host executor m (step.take host executor m.session).2
      ((step.take host executor m.session).1.toList.map (·.result)) := by
  cases step with
  | call inRuntime pace family kind =>
    have called := call_leads fresh host executor quiet sound inRuntime pace family kind
    obtain ⟨held, kept⟩ := hold_held family
      (m.session.callAmid host inRuntime (goingOn host executor pace) family kind)
    have taken : (Decoupling.Step.call inRuntime pace family kind).take host executor m.session =
        (some ⟨(Session.hold family (m.session.callAmid host inRuntime
            (goingOn host executor pace) family kind)).1, _⟩,
          (Session.hold family (m.session.callAmid host inRuntime
            (goingOn host executor pace) family kind)).2) := rfl
    rw [taken, kept]
    exact called.hold held
  | change f => exact asides_lead host executor quiet [.change f]
  | progress launch => exact progress_leads host executor quiet [launch]
  | run => exact run_leads host executor quiet
  | await family =>
    obtain ⟨held, awaited⟩ := Decoupling.await_held host executor family m.session
    have led := (run_leads host executor quiet).hold held
    rwa [← awaited] at led
  | drop family => exact asides_lead host executor quiet [.hold _]

end Steps

include fresh

/-- Every run of a session, with what its callers are told, is a run of the machine. -/
theorem observe_leads (steps : List (Decoupling.Step σ τ)) {m : Machine σ τ}
    (sound : Sound hooks m) (quiet : m.stack = []) :
    Leads host executor m (Decoupling.observe host executor steps m.session).2
      ((Decoupling.observe host executor steps m.session).1.map (·.result)) := by
  induction steps generalizing m with
  | nil => exact ⟨[], quiet, rfl, (List.append_nil _).symm⟩
  | cons step steps ih =>
    obtain ⟨first, finished, reached, told⟩ := step_leads fresh host executor quiet sound step
    obtain ⟨standings, coherent⟩ := sound
    have later := execute_coherent fresh host executor first coherent
    obtain ⟨rest, quiet, final, others⟩ := ih later finished
    refine ⟨first ++ rest, ?_⟩
    rw [execute_append]
    rw [reached] at final others
    refine ⟨quiet, final, ?_⟩
    rw [others, told, List.append_assoc, Decoupling.observe, List.map_append]

end Rendezvous.CallStack

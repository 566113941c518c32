import Rendezvous.Session

/-! What goes on between the actions of calls. Launches look up delegators, run their commands
and leave records of their own; they are awaited and let go. None of it is among the things
that calls look at. -/
namespace Rendezvous

/-- What calls leave in the log: their requests, and the calls made from inside callbacks with
their results. The look-up of a delegator is left out, since launches make it too. -/
def Event.ofCall : Event → Bool
  | .asked (.delegator _) | .started .. | .ended _ => false
  | _ => true

namespace Decoupling

/-- What launches may do outside: look up delegators, and leave records of their own. -/
structure Unheard (host : Host σ) (before after : Outside σ τ) : Prop where
  memory : ∃ registries : List Handle,
    after.memory = host.after (registries.map .delegator) before.memory
  log : after.log.filter Event.ofCall = before.log.filter Event.ofCall

theorem Unheard.refl (host : Host σ) (outside : Outside σ τ) : Unheard host outside outside :=
  ⟨⟨[], rfl⟩, rfl⟩

theorem Unheard.trans {host : Host σ} {first second third : Outside σ τ}
    (earlier : Unheard host first second) (later : Unheard host second third) :
    Unheard host first third := by
  obtain ⟨before, one⟩ := earlier.memory
  obtain ⟨after, two⟩ := later.memory
  refine ⟨⟨before ++ after, ?_⟩, later.log.trans earlier.log⟩
  rw [two, one, List.map_append, Host.after_append]

theorem poll_unheard (host : Host σ) (executor : Executor τ) (launch : Launch) (ticket : Nat)
    (outside : Outside σ τ) :
    Unheard host outside (launch.poll executor ticket outside).2 := by
  unfold Launch.poll
  split
  · exact ⟨⟨[], rfl⟩, rfl⟩
  · exact ⟨⟨[], rfl⟩, by simp [Event.ofCall]⟩

theorem advance_unheard (host : Host σ) (executor : Executor τ) (launch : Launch)
    (outside : Outside σ τ) :
    Unheard host outside (launch.advance host executor outside).2 := by
  have asked : Unheard host outside (outside.ask host (.delegator launch.registry)).2 :=
    ⟨⟨[launch.registry], rfl⟩, by simp [Outside.ask, Event.ofCall]⟩
  unfold Launch.advance
  split
  · exact .refl host outside
  · exact poll_unheard host executor launch _ outside
  · split
    · rename_i answered
      rw [answered] at asked
      exact asked
    · rename_i delegator _ answered
      rw [answered] at asked
      refine asked.trans (.trans ?_ (poll_unheard host executor launch _ _))
      exact ⟨⟨[], rfl⟩, by simp [Event.ofCall]⟩

theorem advanceAll_unheard (host : Host σ) (executor : Executor τ) (launches : List Launch)
    (outside : Outside σ τ) :
    Unheard host outside (Launch.advanceAll host executor launches outside).2 := by
  induction launches generalizing outside with
  | nil => exact .refl host outside
  | cons launch rest ih => exact (advance_unheard host executor launch outside).trans (ih _)

/-- What may happen to a session between the actions of its calls. -/
structure Background (host : Host σ) (before after : Session σ τ) : Prop where
  hooks : after.hooks = before.hooks
  launches : after.launches.length = before.launches.length
  outside : Unheard host before.outside after.outside

theorem Background.refl (host : Host σ) (session : Session σ τ) :
    Background host session session := ⟨rfl, rfl, .refl ..⟩

theorem Background.trans {host : Host σ} {first second third : Session σ τ}
    (earlier : Background host first second) (later : Background host second third) :
    Background host first third :=
  ⟨later.hooks.trans earlier.hooks, later.launches.trans earlier.launches,
    earlier.outside.trans later.outside⟩

/-- One launch goes as far as it can. -/
def progress (host : Host σ) (executor : Executor τ) (launch : LaunchId)
    (session : Session σ τ) : Session σ τ :=
  match session.launches[launch]? with
  | none => session
  | some before =>
    let (after, outside) := before.advance host executor session.outside
    { session with launches := session.launches.set launch after, outside }

def progressAll (host : Host σ) (executor : Executor τ) (launches : List LaunchId)
    (session : Session σ τ) : Session σ τ :=
  launches.foldl (fun session launch => progress host executor launch session) session

theorem progress_background (host : Host σ) (executor : Executor τ) (launch : LaunchId)
    (session : Session σ τ) : Background host session (progress host executor launch session) := by
  unfold progress
  split
  · exact .refl host session
  · exact ⟨rfl, by simp, advance_unheard ..⟩

theorem progressAll_background (host : Host σ) (executor : Executor τ)
    (launches : List LaunchId) (session : Session σ τ) :
    Background host session (progressAll host executor launches session) := by
  induction launches generalizing session with
  | nil => exact .refl host session
  | cons launch rest ih =>
    exact (progress_background host executor launch session).trans (ih _)

theorem run_background (host : Host σ) (executor : Executor τ) (session : Session σ τ) :
    Background host session (session.run host executor) :=
  ⟨rfl, by simp [Session.run], advanceAll_unheard ..⟩

theorem progressAll_range (host : Host σ) (executor : Executor τ) (done rest : List Launch)
    (session : Session σ τ) (launches : session.launches = done ++ rest) :
    progressAll host executor (List.range' done.length rest.length) session =
      { session with
        launches := done ++ (Launch.advanceAll host executor rest session.outside).1
        outside := (Launch.advanceAll host executor rest session.outside).2 } := by
  induction rest generalizing done session with
  | nil => simp [progressAll, Launch.advanceAll, ← launches]
  | cons launch rest ih =>
    have first : progress host executor done.length session =
        { session with
          launches := (done ++ [(launch.advance host executor session.outside).1]) ++ rest
          outside := (launch.advance host executor session.outside).2 } := by
      simp [progress, launches]
    have others := ih (done ++ [(launch.advance host executor session.outside).1])
      (progress host executor done.length session) (by rw [first])
    rw [first] at others
    simpa [List.range'_succ, progressAll, Launch.advanceAll, first] using others

/-- Running all launches is letting them go on one after the other. -/
theorem run_eq_progressAll (host : Host σ) (executor : Executor τ) (session : Session σ τ) :
    session.run host executor =
      progressAll host executor (List.range session.launches.length) session := by
  rw [List.range_eq_range']
  exact (progressAll_range host executor [] session.launches session rfl).symm

/-- Nobody sees which launches are held. -/
theorem hold_background (host : Host σ) (session : Session σ τ)
    (held : ByFamily (Option LaunchId)) : Background host session { session with held } :=
  ⟨rfl, rfl, .refl ..⟩

theorem await_held (host : Host σ) (executor : Executor τ) (family : Family)
    (session : Session σ τ) :
    ∃ held, (session.await host executor family).2 =
      { session.run host executor with held } := by
  simp only [Session.await]
  split
  · exact ⟨_, rfl⟩
  · split <;> exact ⟨_, rfl⟩

theorem await_background (host : Host σ) (executor : Executor τ) (family : Family)
    (session : Session σ τ) :
    Background host session (session.await host executor family).2 := by
  obtain ⟨held, awaited⟩ := await_held host executor family session
  rw [awaited]
  exact (run_background host executor session).trans (hold_background ..)

end Decoupling
end Rendezvous

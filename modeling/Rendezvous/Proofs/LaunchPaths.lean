import Rendezvous.Launch.Awaited
import Rendezvous.Rehearsal

/-! The ways of a launch. Waited for straight through or fired as a task, a launch asks one question
and, if there is a delegator, has one command started; how that ends is how the launch ends, an exit
code counting for nothing. A task differs in one thing, that a panic is told to its holder as a
failure. Fired outside a runtime, or without a registry, a launch does nothing at all. -/
namespace Rendezvous

variable {host : Host σ} {executor : Executor τ} {outside : Outside σ τ}

namespace Executor

theorem look_log (executor : Executor τ) (registry : Handle) (ticket : Nat)
    (outside : Outside σ τ) :
    (executor.look registry ticket outside).2.log =
      outside.log ++ if (executor.look registry ticket outside).1.isSome
        then [.ended registry] else [] := by
  unfold look
  split <;> simp

/-- However long it is waited for, a command ends once or not yet. -/
theorem await_log (executor : Executor τ) (registry : Handle) (ticket : Nat)
    (outside : Outside σ τ) (interludes : List (Interlude σ τ)) :
    (executor.await registry ticket outside interludes).2.log =
      outside.log ++ if (executor.await registry ticket outside interludes).1.isSome
        then [.ended registry] else [] := by
  induction interludes generalizing outside with
  | nil => exact look_log executor registry ticket outside
  | cons interlude later ih =>
    have seen := look_log executor registry ticket outside
    unfold await
    split
    · rename_i between looked
      rw [looked] at seen
      have unchanged : (between.during interlude).log = outside.log := by
        simpa [Outside.during] using seen
      rw [ih, unchanged]
    · exact seen

end Executor

theorem Exit.ofReply_ne_skipped (reply : Reply) : Exit.ofReply reply ≠ .outcome .skipped := by
  cases reply <;> simp [ofReply]

namespace Launch

theorem poll_eq (executor : Executor τ) (launch : Launch) (ticket : Nat) (outside : Outside σ τ) :
    launch.poll executor ticket outside =
      (match (executor.look launch.registry ticket outside).1 with
        | none => { launch with stage := .running ticket }
        | some reply => { launch with stage := .ended (.ofReply reply) },
      (executor.look launch.registry ticket outside).2) := by
  unfold poll Executor.look
  rcases executor.poll ticket outside.commands with ⟨_ | reply, commands⟩ <;> rfl

/-- What is waited for is decided by how the first look leaves the launch. -/
theorem await_congr {launch other : Launch} {elsewhere : Outside σ τ}
    (same : launch.advance host executor outside = other.advance host executor elsewhere)
    (interludes : List (Interlude σ τ)) :
    launch.await host executor outside interludes =
      other.await host executor elsewhere interludes := by
  cases interludes <;> simp only [await, same]

/-- Once the command is under way, waiting for the task is waiting for the command. -/
theorem await_running (launch : Launch) (ticket : Nat) (outside : Outside σ τ)
    (interludes : List (Interlude σ τ)) :
    { launch with stage := .running ticket }.await host executor outside interludes =
      ((executor.await launch.registry ticket outside interludes).1.map .ofReply,
        (executor.await launch.registry ticket outside interludes).2) := by
  induction interludes generalizing outside with
  | nil =>
    simp only [await, advance, poll_eq, Executor.await]
    cases (executor.look launch.registry ticket outside).1 <;> rfl
  | cons interlude later ih =>
    simp only [await, advance, poll_eq, Executor.await]
    rcases executor.look launch.registry ticket outside with ⟨_ | reply, after⟩
    · exact ih (after.during interlude)
    · rfl

/-- A task that has ended at the first look is looked at no more. -/
theorem await_seen {launch task : Launch} {exit : Exit} {after : Outside σ τ}
    (first : launch.advance host executor outside = (task, after)) (ended : task.exit? = some exit)
    (interludes : List (Interlude σ τ)) :
    launch.await host executor outside interludes = (some exit, after) := by
  cases interludes <;> simp [await, first, ended]

/-- A task that has ended beforehand is not moved on. -/
theorem outcome_ended {launch : Launch} {exit : Exit} (ended : launch.stage = .ended exit)
    (outside : Outside σ τ) (interludes : List (Interlude σ τ)) :
    launch.outcome host executor outside interludes = (some exit.joined, outside) := by
  have still : launch.advance host executor outside = (launch, outside) := by
    simp [advance, ended]
  simp [outcome, await_seen still (show launch.exit? = some exit by simp [exit?, ended])]

/-- Without a delegator the question is all there is to a launch. -/
theorem launch_alone {launcher : Launcher} {token : Token} {registry : Handle}
    {interludes : List (Interlude σ τ)}
    (alone : (outside.ask host (.delegator registry)).1 = none) :
    launcher.launch host executor token registry outside interludes =
      (some (.outcome .skipped), (outside.ask host (.delegator registry)).2) := by
  unfold Launcher.launch
  cases asked : outside.ask host (.delegator registry) with
  | mk answer after =>
    obtain rfl : answer = none := by rw [asked] at alone; exact alone
    rfl

/-- With a delegator a launch ends as its command does. -/
theorem launch_delegated {launcher : Launcher} {token : Token} {registry : Handle}
    {interludes : List (Interlude σ τ)} {delegator : Delegator}
    (found : (outside.ask host (.delegator registry)).1 = some delegator) :
    let command := launcher.family.startCommand token
    let asked := (outside.ask host (.delegator registry)).2
    let started := executor.start delegator command launcher.timeoutUnits asked.commands
    let ended := executor.await registry started.1
      { asked with
        commands := started.2
        log := asked.log ++ [.started registry command launcher.timeoutUnits] } interludes
    launcher.launch host executor token registry outside interludes =
      (ended.1.map .ofReply, ended.2) := by
  unfold Launcher.launch
  cases asked : outside.ask host (.delegator registry) with
  | mk answer after =>
    obtain rfl : answer = some delegator := by rw [asked] at found; exact found
    rfl

/-- A fired task asks, orders and ends as if it were waited for straight through. -/
theorem await_fired (host : Host σ) (executor : Executor τ) (launcher : Launcher) (token : Token)
    (registry : Handle) (outside : Outside σ τ) (interludes : List (Interlude σ τ)) :
    (fire true launcher (some registry) token).await host executor outside interludes =
      launcher.launch host executor token registry outside interludes := by
  let task := fire true launcher (some registry) token
  cases asked : outside.ask host (.delegator registry) with
  | mk answer after =>
    cases answer with
    | none =>
      have first : task.advance host executor outside =
          ({ task with stage := .ended (.outcome .skipped) }, after) := by
        simp only [task, fire, if_true, advance]
        rw [asked]
      rw [launch_alone (by rw [asked]), asked]
      exact await_seen first rfl interludes
    | some delegator =>
      let command := launcher.family.startCommand token
      let started := executor.start delegator command launcher.timeoutUnits after.commands
      have first : task.advance host executor outside =
          { task with stage := .running started.1 }.advance host executor
            { after with
              commands := started.2
              log := after.log ++ [Event.started registry command launcher.timeoutUnits] } := by
        simp only [task, fire, if_true, advance]
        rw [asked]
        rfl
      rw [launch_delegated (by rw [asked]), asked]
      exact (await_congr first interludes).trans (await_running task ..)

/-- What a launch comes to, by the way it takes. Waited for straight through it is skipped just if
there is no delegator, and then has only asked for one. If there is one, the start command is
started there once, within the launcher's time, and the launch ends as the command does. A task
fired inside a runtime leaves the same behind and ends alike, or fails where the delegator panics.
Outside a runtime it fails, and without a registry it is skipped, and all stays as it was. -/
theorem launch_classified (host : Host σ) (executor : Executor τ) (launcher : Launcher)
    (token : Token) (registry : Handle) (outside : Outside σ τ)
    (interludes : List (Interlude σ τ)) :
    let asked := outside.ask host (.delegator registry)
    let launched := launcher.launch host executor token registry outside interludes
    let outcome (launch : Launch) := launch.outcome host executor outside interludes
    (launched.1 = some (.outcome .skipped) ↔ asked.1 = none) ∧
    (asked.1 = none → launched.2 = asked.2 ∧ launched.2.commands = outside.commands ∧
      launched.2.log = outside.log ++ [.asked (.delegator registry)]) ∧
    (∀ delegator, asked.1 = some delegator →
      let command := launcher.family.tool ++ " start-daemon " ++ token.text
      let calls : List Event :=
        [.asked (.delegator registry), .started registry command launcher.timeoutUnits]
      let started := executor.start delegator command launcher.timeoutUnits asked.2.commands
      let ended := executor.await registry started.1
        { asked.2 with commands := started.2, log := outside.log ++ calls } interludes
      launched.2 = ended.2 ∧
      launched.2.log =
        outside.log ++ calls ++ (if ended.1.isSome then [.ended registry] else []) ∧
      launched.1 = match ended.1 with
        | none => none
        | some (.returned result) => some (.outcome (.succeeded result))
        | some (.failed error) => some (.outcome (.failed error.message))
        | some (.panicked message) => some (.panicked message)) ∧
    outcome (fire true launcher (some registry) token) = (match launched.1 with
      | none => none
      | some (.outcome value) => some value
      | some (.panicked message) =>
        some (.failed ("task N panicked with message " ++ Text.Quoted.quote message)),
      launched.2) ∧
    outcome (fire false launcher (some registry) token) = (some (.failed noRuntime), outside) ∧
    ∀ inRuntime, outcome (fire inRuntime launcher none token) = (some .skipped, outside) := by
  intro asked launched outcome
  refine ⟨?_, ?_, ?_, ?_, ?_, ?_⟩
  · cases answer : asked.1 with
    | none => simp [launched, launch_alone answer]
    | some delegator => simp [launched, launch_delegated answer, Exit.ofReply_ne_skipped]
  · intro alone
    have only : launched.2 = asked.2 := congrArg Prod.snd (launch_alone alone)
    exact ⟨only, by rw [only]; rfl, by rw [only]; rfl⟩
  · intro delegator found command calls started ended
    have same : outside.log ++ calls =
        asked.2.log ++ [.started registry command launcher.timeoutUnits] := by
      simp [asked, calls, Outside.ask]
    have straight : launched = (ended.1.map .ofReply, ended.2) := by
      simp only [ended, same]
      exact launch_delegated found
    rw [straight]
    refine ⟨rfl, Executor.await_log .., ?_⟩
    rcases ended.1 with _ | _ | _ | _ <;> rfl
  · simp only [outcome, Launch.outcome, await_fired]
    cases launched.1 with
    | none => rfl
    | some exit => cases exit <;> rfl
  · have ended : (fire false launcher (some registry) token).stage =
        .ended (.outcome (.failed noRuntime)) := rfl
    exact outcome_ended ended outside interludes
  · intro inRuntime
    have ended : (fire inRuntime launcher none token).stage = .ended (.outcome .skipped) := rfl
    exact outcome_ended ended outside interludes

/-- A command that was refused by the shell has been started all the same. -/
example :
    let refused : CommandResult := ⟨"not found", 127⟩
    let house := ({} : Rehearsal.House).offer "r" (some ⟨⟨"App", 2⟩, [.returned refused], false⟩)
    let told := (fire true ⟨.perf, 3⟩ (some "r") ⟨"App@1@2@2"⟩).outcome Rehearsal.stageHost
      Rehearsal.deskExecutor ⟨house.stage, house.desks, []⟩ []
    told.1 = some (.succeeded refused) ∧
    told.2.log = [.asked (.delegator "r"), .started "r" "perftest start-daemon App@1@2@2" 3,
      .ended "r"] := by
  decide +kernel

end Launch
end Rendezvous

import Rendezvous.Launch

/-! Launches that somebody waits for. Who waits looks at once and, until there is an end to be seen,
looks again after each interlude, in which others have their way with the host and the commands.
When the interludes run out nobody looks any more. A launch is waited for straight through, from its
question to its end, or as a task that was fired before and moves on at every look. -/
namespace Rendezvous

/-- What others make of the host's memory and the commands between two looks. -/
abbrev Interlude (σ τ : Type) := σ × τ → σ × τ

def Outside.during (interlude : Interlude σ τ) (outside : Outside σ τ) : Outside σ τ :=
  let (memory, commands) := interlude (outside.memory, outside.commands)
  { outside with memory, commands }

namespace Executor

/-- One look at the command under a ticket. -/
def look (executor : Executor τ) (registry : Handle) (ticket : Nat) (outside : Outside σ τ) :
    Option Reply × Outside σ τ :=
  match executor.poll ticket outside.commands with
  | (none, commands) => (none, { outside with commands })
  | (some reply, commands) =>
    (some reply, { outside with commands, log := outside.log ++ [.ended registry] })

/-- Waits until the command has ended. -/
def await (executor : Executor τ) (registry : Handle) (ticket : Nat) (outside : Outside σ τ) :
    List (Interlude σ τ) → Option Reply × Outside σ τ
  | [] => executor.look registry ticket outside
  | interlude :: later =>
    match executor.look registry ticket outside with
    | (none, outside) => executor.await registry ticket (outside.during interlude) later
    | ended => ended

end Executor

/-- A launch from its question to its end. A panic of the delegator reaches whoever waits. -/
def Launcher.launch (host : Host σ) (executor : Executor τ) (launcher : Launcher) (token : Token)
    (registry : Handle) (outside : Outside σ τ) (interludes : List (Interlude σ τ)) :
    Option Exit × Outside σ τ :=
  match outside.ask host (.delegator registry) with
  | (none, outside) => (some (.outcome .skipped), outside)
  | (some delegator, outside) =>
    let command := launcher.family.startCommand token
    let (ticket, commands) :=
      executor.start delegator command launcher.timeoutUnits outside.commands
    let (reply, outside) := executor.await registry ticket
      { outside with
        commands
        log := outside.log ++ [.started registry command launcher.timeoutUnits] } interludes
    (reply.map .ofReply, outside)

namespace Launch

/-- Waits until a task has ended, which moves on at every look. -/
def await (host : Host σ) (executor : Executor τ) (launch : Launch) (outside : Outside σ τ) :
    List (Interlude σ τ) → Option Exit × Outside σ τ
  | [] =>
    let (launch, outside) := launch.advance host executor outside
    (launch.exit?, outside)
  | interlude :: later =>
    let (launch, outside) := launch.advance host executor outside
    match launch.exit? with
    | none => launch.await host executor (outside.during interlude) later
    | some exit => (some exit, outside)

/-- What the holder of a task gets to know of it, and what is outside then. -/
def outcome (host : Host σ) (executor : Executor τ) (launch : Launch) (outside : Outside σ τ)
    (interludes : List (Interlude σ τ)) : Option LaunchOutcome × Outside σ τ :=
  let (exit, outside) := launch.await host executor outside interludes
  (exit.map Exit.joined, outside)

end Launch
end Rendezvous

import Rendezvous.Family
import Rendezvous.Error
import Rendezvous.Capability

/-! Calls into a host. A host is whatever answers them; it may remember anything and answer
differently each time. Commands run in the background are kept apart from the other calls:
an `Executor` has its own memory, which no other answer depends on. -/
namespace Rendezvous

/-- A host numbers the delegators it has offered. -/
abbrev Delegator := Nat

/-- What a module may ask of the environments from inside its own callback. -/
inductive Call where
  | setup
  | teardown
  | state
  deriving DecidableEq, Repr

/-- One call into the host, made and answered at once. -/
inductive Request where
  | parameter (provider : Handle) (key default : String)
  | pid (process : Handle)
  | uid (process : Handle)
  | delegator (registry : Handle)
  | appContext (delegator : Delegator)
  | schedule (module : Handle) (token : Token)
  | dispose (module : Handle)
  deriving DecidableEq, Repr

/-- The type of a request's answer. Scheduling a connection is answered by the calls that
the module makes before it returns. -/
abbrev Request.Answer : Request → Type
  | .parameter .. => String
  | .pid _ => UInt32
  | .uid _ => UInt32
  | .delegator _ => Option Delegator
  | .appContext _ => AppContext
  | .schedule .. => List (Family × Call)
  | .dispose _ => Unit

structure Host (σ : Type) where
  answer : (request : Request) → σ → request.Answer × σ

namespace Host

/-- The host's memory after some requests. -/
def after (host : Host σ) (requests : List Request) (memory : σ) : σ :=
  requests.foldl (fun memory request => (host.answer request memory).2) memory

/-- The answer to a request that comes after some others. -/
def reply (host : Host σ) (memory : σ) (earlier : List Request) (request : Request) :
    request.Answer := (host.answer request (host.after earlier memory)).1

theorem after_append (host : Host σ) (first second : List Request) (memory : σ) :
    host.after (first ++ second) memory = host.after second (host.after first memory) :=
  List.foldl_append ..

@[simp] theorem reply_after (host : Host σ) (first second : List Request) (memory : σ)
    (request : Request) :
    host.reply (host.after first memory) second request =
      host.reply memory (first ++ second) request := by
  simp [reply, after_append]

end Host

/-- What a shell command left behind. -/
structure CommandResult where
  stdResult : String
  exitCode : Int32
  deriving DecidableEq, Repr

/-- How a background command may end. -/
inductive Reply where
  | returned (result : CommandResult)
  | failed (error : Error)
  | panicked (message : String)

/-- Runs the commands of delegators. A started command is known by its ticket; looking at
it yields its reply once it has ended, and may go on yielding nothing for ever. -/
structure Executor (τ : Type) where
  start : Delegator → (command : String) → (timeoutUnits : UInt32) → τ → Nat × τ
  poll : (ticket : Nat) → τ → Option Reply × τ

end Rendezvous

import Rendezvous.Proofs.Background
import Rendezvous.Proofs.InterleavingOwnership
import Rendezvous.Proofs.SetupRun

/-! Calls step by step. A session runs a call to its end; here the calls under way stand on a
stack, a module's own calls above the one that it was handed its token by, and each step is
one action. Between two steps launches go on and the host changes. A journal puts every event
down with the family that it belongs to, which the log of a session leaves open when two
families share a module or a registry. -/
namespace Rendezvous.CallStack

/-- What one step does in the name of a family. -/
inductive Deed where
  | guard (op : GuardOp) (changed : Bool)
  | asked (request : Request)
  | fired (launch : LaunchId)
  /-- A call has returned, `nested` if a module has made it, and left the guard like this. -/
  | returned (call : Call) (inRuntime nested : Bool) (result : CallResult)
      (guard : Option SetupState)
  | lookedUp (launch : LaunchId) (registry : Handle) (offer : Option Delegator)
  | started (launch : LaunchId) (registry : Handle) (command : String) (timeoutUnits : UInt32)
  | ended (launch : LaunchId) (registry : Handle)
  deriving DecidableEq, Repr

structure Entry where
  family : Family
  deed : Deed
  deriving DecidableEq, Repr

/-- The event of which an entry tells. -/
def Entry.event? : Entry → Option Event
  | ⟨_, .asked request⟩ => some (.asked request)
  | ⟨family, .returned call _ true result _⟩ => some (.reentrant family call result)
  | ⟨_, .lookedUp _ registry _⟩ => some (.asked (.delegator registry))
  | ⟨_, .started _ registry command timeoutUnits⟩ => some (.started registry command timeoutUnits)
  | ⟨_, .ended _ registry⟩ => some (.ended registry)
  | _ => none

/-- What one family has done. -/
def deeds (family : Family) (journal : List Entry) : List Deed :=
  journal.filterMap fun entry => if entry.family = family then some entry.deed else none

namespace Deed

def ofAction : (action : Action) → action.Answer → Deed
  | .guard op, changed => .guard op changed
  | .ask request, _ => .asked request
  | .launch .., launch => .fired launch

/-- A call has done it, and no launch. -/
def ofCall : Deed → Bool
  | .lookedUp .. | .started .. | .ended .. => false
  | _ => true

/-- An event of a launch that has been offered this. -/
def ofLaunch (launch : LaunchId) (offer : Option Delegator) : Event → Option Deed
  | .asked (.delegator registry) => some (.lookedUp launch registry offer)
  | .started registry command timeoutUnits => some (.started launch registry command timeoutUnits)
  | .ended registry => some (.ended launch registry)
  | _ => none

end Deed

/-- A call under way. -/
structure Frame where
  family : Family
  call : Call
  inRuntime : Bool
  /-- It has taken the guard. -/
  begun : Bool
  /-- What its module has still to call before the last action is over. -/
  pending : List (Family × Call)
  rest : Program CallResult

/-- The calls that a module makes before an action is over. -/
def callbacks : (action : Action) → action.Answer → List (Family × Call)
  | .ask (.schedule ..), calls => calls
  | _, _ => []

def begins : (action : Action) → action.Answer → Bool
  | .guard .tryBegin, began => began
  | _, _ => false

def Frame.arrive (session : Session σ τ) (inRuntime : Bool) (family : Family) (call : Call) :
    Frame :=
  ⟨family, call, inRuntime, false, [],
    match session.hooks.get family with
    | none => .finish .notLoaded
    | some env => Interleaving.program env env.state call⟩

structure Machine (σ τ : Type) where
  session : Session σ τ
  /-- The calls under way, the innermost first. -/
  stack : List Frame
  journal : List Entry

/-- What the world does between two steps. -/
inductive Aside (σ : Type) where
  | progress (launch : LaunchId)
  /-- The host changes by itself. -/
  | change (f : σ → σ)
  /-- Launches are awaited or let go. -/
  | hold (held : ByFamily (Option LaunchId))

namespace Machine

def start (hooks : Hooks) (memory : σ) (commands : τ) : Machine σ τ :=
  ⟨.start hooks memory commands, [], []⟩

/-- The frame acts, and its module's calls are due before it acts again. -/
def act (host : Host σ) (frame : Frame) (below : List Frame) (action : Action)
    (next : action.Answer → Program CallResult) (m : Machine σ τ) : Machine σ τ :=
  let (answer, session) := m.session.perform host frame.inRuntime (fun _ _ session => session)
    frame.family action
  { session
    stack :=
      { frame with
        begun := frame.begun || begins action answer
        pending := callbacks action answer
        rest := next answer } :: below
    journal := m.journal ++ [⟨frame.family, .ofAction action answer⟩] }

/-- The frame returns, to the frame below it or to the outside. -/
def leave (frame : Frame) (below : List Frame) (result : CallResult) (m : Machine σ τ) :
    Machine σ τ :=
  { session :=
      if below.isEmpty then m.session
      else
        { m.session with
          outside := m.session.outside.record (.reentrant frame.family frame.call result) }
    stack := below
    journal := m.journal ++ [⟨frame.family, .returned frame.call frame.inRuntime (!below.isEmpty)
      result (m.session.state? frame.family)⟩] }

/-- One step of the innermost call. -/
def advance (host : Host σ) (m : Machine σ τ) : Machine σ τ :=
  match m.stack with
  | [] => m
  | frame :: below =>
    match frame.pending with
    | (family, call) :: pending =>
      { m with
        stack := .arrive m.session frame.inRuntime family call :: { frame with pending } :: below }
    | [] =>
      match frame.rest with
      | .finish result => m.leave frame below result
      | .act action next => m.act host frame below action next

/-- One launch goes as far as it can. -/
def progress (host : Host σ) (executor : Executor τ) (launch : LaunchId) (m : Machine σ τ) :
    Machine σ τ :=
  match m.session.launches[launch]? with
  | none => m
  | some fired =>
    let offer := host.reply m.session.outside.memory [] (.delegator fired.registry)
    let session := Decoupling.progress host executor launch m.session
    let events := session.outside.log.drop m.session.outside.log.length
    { m with
      session
      journal := m.journal ++
        (events.filterMap (Deed.ofLaunch launch offer)).map (⟨fired.launcher.family, ·⟩) }

/-- A call from the outside, when none is under way. -/
def enter (inRuntime : Bool) (family : Family) (call : Call) (m : Machine σ τ) : Machine σ τ :=
  if m.stack.isEmpty then { m with stack := [.arrive m.session inRuntime family call] } else m

end Machine

def Aside.take (host : Host σ) (executor : Executor τ) : Aside σ → Machine σ τ → Machine σ τ
  | .progress launch, m => m.progress host executor launch
  | .change f, m => { m with session.outside.memory := f m.session.outside.memory }
  | .hold held, m => { m with session.held := held }

/-- One event of the world after the other. -/
def asides (host : Host σ) (executor : Executor τ) (events : List (Aside σ))
    (m : Machine σ τ) : Machine σ τ :=
  events.foldl (fun m event => event.take host executor m) m

inductive Move (σ : Type) where
  | enter (inRuntime : Bool) (family : Family) (call : Call)
  | advance
  | aside (event : Aside σ)

def Move.take (host : Host σ) (executor : Executor τ) : Move σ → Machine σ τ → Machine σ τ
  | .enter inRuntime family call, m => m.enter inRuntime family call
  | .advance, m => m.advance host
  | .aside event, m => event.take host executor m

def execute (host : Host σ) (executor : Executor τ) : List (Move σ) → Machine σ τ → Machine σ τ
  | [], m => m
  | move :: moves, m => execute host executor moves (move.take host executor m)

end Rendezvous.CallStack

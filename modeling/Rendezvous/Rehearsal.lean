import Rendezvous.Session

/-! Rehearsals: sessions against a host whose objects and answers are written down in
advance and may be changed between the steps. Delegators play a script, one reply per
command, and may hold their commands at a gate until it is given a permit. -/
namespace Rendezvous.Rehearsal

/-- What the host knows about its objects. -/
structure Stage where
  processes : List (Handle × Identity) := []
  parameters : List (Handle × List (String × String)) := []
  registries : List (Handle × Option Delegator) := []
  /-- For every delegator, by number, what it says about the application. -/
  contexts : List AppContext := []
  /-- For every module, the family it calls back on and the calls it makes. -/
  modules : List (Handle × Family × List Call) := []

def stageHost : Host Stage where
  answer
    | .parameter provider key default, stage =>
      (((stage.parameters.lookup provider).bind (·.lookup key)).getD default, stage)
    | .pid process, stage => (((stage.processes.lookup process).map (·.pid)).getD 0, stage)
    | .uid process, stage => (((stage.processes.lookup process).map (·.uid)).getD 0, stage)
    | .delegator registry, stage => ((stage.registries.lookup registry).getD none, stage)
    | .appContext delegator, stage => ((stage.contexts[delegator]?).getD ⟨"", 0⟩, stage)
    | .schedule module _, stage =>
      (match stage.modules.lookup module with
        | some (family, calls) => calls.map (family, ·)
        | none => [], stage)
    | .dispose _, stage => ((), stage)

/-- A delegator's commands: the replies still to be given, and its gate. -/
structure Desk where
  script : List Reply
  gated : Bool
  permit : Bool := false

/-- A started command, and whether it has passed the gate of its desk. -/
structure Ticket where
  delegator : Delegator
  passed : Bool

structure Desks where
  desks : List Desk := []
  tickets : List Ticket := []

namespace Desks

/-- The next reply of a script; the last one stays. -/
def nextReply : List Reply → Reply × List Reply
  | [] => (.returned ⟨"", 0⟩, [])
  | [reply] => (reply, [reply])
  | reply :: rest => (reply, rest)

/-- A permit lets one command pass, an unused one waits for the next. -/
def start (delegator : Delegator) (desks : Desks) : Nat × Desks :=
  let ticket := desks.tickets.length
  match desks.desks[delegator]? with
  | some desk =>
    if desk.gated then
      (ticket,
        { desks := desks.desks.set delegator { desk with permit := false }
          tickets := desks.tickets ++ [⟨delegator, desk.permit⟩] })
    else (ticket, { desks with tickets := desks.tickets ++ [⟨delegator, true⟩] })
  | none => (ticket, { desks with tickets := desks.tickets ++ [⟨delegator, true⟩] })

def poll (ticket : Nat) (desks : Desks) : Option Reply × Desks :=
  match desks.tickets[ticket]? with
  | some ⟨delegator, true⟩ =>
    match desks.desks[delegator]? with
    | some desk =>
      let (reply, script) := nextReply desk.script
      (some reply, { desks with desks := desks.desks.set delegator { desk with script } })
    | none => (some (.returned ⟨"", 0⟩), desks)
  | _ => (none, desks)

/-- Lets the oldest waiting command of a delegator pass. -/
def passFirst (delegator : Delegator) : List Ticket → Option (List Ticket)
  | [] => none
  | ticket :: rest =>
    if ticket.delegator = delegator ∧ ticket.passed = false then
      some ({ ticket with passed := true } :: rest)
    else (passFirst delegator rest).map (ticket :: ·)

def release (delegator : Delegator) (desks : Desks) : Desks :=
  match passFirst delegator desks.tickets with
  | some tickets => { desks with tickets }
  | none =>
    match desks.desks[delegator]? with
    | some desk => { desks with desks := desks.desks.set delegator { desk with permit := true } }
    | none => desks

end Desks

def deskExecutor : Executor Desks where
  start delegator _ _ desks := desks.start delegator
  poll ticket desks := desks.poll ticket

/-- A delegator as it is written down. -/
structure DelegatorSheet where
  context : AppContext
  script : List Reply
  gated : Bool

/-- A capability as it is written down, with the object behind it. -/
inductive CapabilitySheet where
  | process (handle : Handle) (identity : Identity)
  | parameters (handle : Handle) (values : List (String × String))
  | registry (handle : Handle) (delegator : Option DelegatorSheet)
  | context (value : AppContext)
  | module (handle : Handle) (calls : List Call)

def CapabilitySheet.capability : CapabilitySheet → Capability
  | .process handle _ => .process handle
  | .parameters handle _ => .parameters handle
  | .registry handle _ => .registry handle
  | .context value => .context value
  | .module handle _ => .module handle

/-- The stage and the desks behind it. -/
structure House where
  stage : Stage := {}
  desks : Desks := {}

namespace House

/-- A registry offers a new delegator, or none. -/
def offer (registry : Handle) (sheet : Option DelegatorSheet) (house : House) : House :=
  let others := house.stage.registries.filter (·.1 ≠ registry)
  match sheet with
  | none => { house with stage.registries := (registry, none) :: others }
  | some sheet =>
    { stage :=
        { house.stage with
          registries := (registry, some house.stage.contexts.length) :: others
          contexts := house.stage.contexts ++ [sheet.context] }
      desks := { house.desks with
        desks := house.desks.desks ++ [⟨sheet.script, sheet.gated, false⟩] } }

/-- Brings in the object behind a capability; one that is there already stays as it is. -/
def bring (house : House) : CapabilitySheet → House
  | .process handle identity =>
    if (house.stage.processes.lookup handle).isSome then house
    else { house with stage.processes := (handle, identity) :: house.stage.processes }
  | .parameters handle values =>
    if (house.stage.parameters.lookup handle).isSome then house
    else { house with stage.parameters := (handle, values) :: house.stage.parameters }
  | .registry handle sheet =>
    if (house.stage.registries.lookup handle).isSome then house else house.offer handle sheet
  | .context _ => house
  | .module handle calls =>
    if (house.stage.modules.lookup handle).isSome then house
    else { house with stage.modules := (handle, .ui, calls) :: house.stage.modules }

/-- Modules call back on the environment they were loaded for; one that serves both
families on the performance environment. -/
def assign (resolver : Resolver) (house : House) : House :=
  { house with
    stage.modules := house.stage.modules.map fun (handle, _, calls) =>
      (handle,
        if resolver.module (Family.moduleName .perf) = some handle then .perf else .ui, calls) }

end House

/-- A session under way, with what it was made from. -/
structure Play where
  resolver : Resolver
  config : BootstrapConfig
  session : Session Stage Desks

def begin (sheets : List (Namespace × String × CapabilitySheet)) (config : BootstrapConfig) :
    Play :=
  let resolver := Resolver.ofHistory (sheets.map fun (target, name, sheet) =>
    ⟨target, name, sheet.capability⟩)
  let house :=
    (sheets.foldl (fun (house : House) sheet => house.bring sheet.2.2) {}).assign resolver
  ⟨resolver, config, .start (.install resolver config) house.stage house.desks⟩

inductive Step where
  | setup (inRuntime : Bool) (family : Family)
  | teardown (family : Family)
  | run
  | await (family : Family)
  | dropLaunch (family : Family)
  | release (registry : Handle)
  | setParameter (provider : Handle) (key : String) (value : Option String)
  | setDelegator (registry : Handle) (delegator : Option DelegatorSheet)
  | replace (family : Family)
  | copyHooks
  | debug (family : Family)

inductive Result where
  | nothing
  | call (result : CallResult)
  | awaited (result : Session.Awaited)
  | flag (value : Bool)
  | text (value : Option String)

namespace Play

/-- Changes what stands behind the host, between two steps. -/
def changeHouse (f : House → House) (play : Play) : Play :=
  let outside := play.session.outside
  let house := f ⟨outside.memory, outside.commands⟩
  { play with
    session.outside := { outside with memory := house.stage, commands := house.desks } }

def setParameter (provider : Handle) (key : String) (value : Option String) (house : House) :
    House :=
  { house with
    stage.parameters := house.stage.parameters.map fun (handle, values) =>
      if handle = provider then
        let others := values.filter (·.1 ≠ key)
        (handle, match value with
          | some value => (key, value) :: others
          | none => others)
      else (handle, values) }

def release (registry : Handle) (house : House) : House :=
  match house.stage.registries.lookup registry with
  | some (some delegator) => { house with desks := house.desks.release delegator }
  | _ => house

def step (play : Play) : Step → Result × Play
  | .setup inRuntime family =>
    let (result, session) := play.session.setup stageHost inRuntime family
    (.call result, { play with session })
  | .teardown family =>
    let (result, session) := play.session.teardown stageHost family
    (.call result, { play with session })
  | .run => (.nothing, { play with session := play.session.run stageHost deskExecutor })
  | .await family =>
    let (result, session) := play.session.await stageHost deskExecutor family
    (.awaited result, { play with session })
  | .dropLaunch family =>
    let (result, session) := play.session.drop family
    (.flag result, { play with session })
  | .release registry => (.nothing, play.changeHouse (release registry))
  | .setParameter provider key value =>
    (.nothing, play.changeHouse (setParameter provider key value))
  | .setDelegator registry delegator =>
    (.nothing, play.changeHouse (·.offer registry delegator))
  | .replace family =>
    let (result, session) :=
      play.session.replace play.resolver play.config family
    (.flag result, { play with session })
  | .copyHooks => (.nothing, play)
  | .debug family =>
    (.text ((play.session.hooks.get family).map (·.debugText)), play)

/-- One step with its result, the events it caused and the guards after it. -/
structure Report where
  result : Result
  events : List Event
  states : List (Option SetupState)

def steps : Play → List Step → List Report
  | _, [] => []
  | play, step :: rest =>
    let before := play.session.outside.log.length
    let (result, after) := play.step step
    ⟨result, after.session.outside.log.drop before, Family.all.map after.session.state?⟩ ::
      steps after rest

end Play
end Rendezvous.Rehearsal

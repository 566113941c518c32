import Rendezvous.Launch

/-! A session: the environments of both families, the launches fired so far, and what
stands outside. Calls are run to their end, with the calls that modules make from inside
their callbacks; launches move only when the session runs them. -/
namespace Rendezvous

/-- One value for each family. -/
structure ByFamily (α : Type) where
  ui : α
  perf : α

namespace ByFamily

def get (values : ByFamily α) : Family → α
  | .ui => values.ui
  | .perf => values.perf

def set (values : ByFamily α) (family : Family) (value : α) : ByFamily α :=
  match family with
  | .ui => { values with ui := value }
  | .perf => { values with perf := value }

def ofFunction (f : Family → α) : ByFamily α := ⟨f .ui, f .perf⟩

@[simp] theorem get_set_same (values : ByFamily α) (family : Family) (value : α) :
    (values.set family value).get family = value := by cases family <;> rfl

@[simp] theorem get_set_other {family other : Family} (h : other ≠ family)
    (values : ByFamily α) (value : α) : (values.set family value).get other = values.get other := by
  cases family <;> cases other <;> first | rfl | exact absurd rfl h

@[simp] theorem set_set (values : ByFamily α) (family : Family) (first second : α) :
    (values.set family first).set family second = values.set family second := by
  cases family <;> rfl

theorem set_of_get {values : ByFamily α} {family : Family} (h : values.get family = value) :
    values.set family value = values := by
  subst h
  cases family <;> rfl

@[simp] theorem get_ofFunction (f : Family → α) (family : Family) :
    (ofFunction f).get family = f family := by cases family <;> rfl

end ByFamily

/-- The loaded environments. -/
abbrev Hooks := ByFamily (Option Environment)

/-- Loads every family whose module the resolver provides. -/
def Hooks.install (resolver : Resolver) (config : BootstrapConfig) : Hooks :=
  .ofFunction fun family => Environment.load family resolver (.ofConfig config family)

theorem Hooks.get_install_eq_some {resolver : Resolver} {config : BootstrapConfig} {family : Family}
    {env : Environment} :
    (install resolver config).get family = some env ↔
      ∃ module, resolver.module family.moduleName = some module ∧
        env = ⟨family, module, resolver, .ofConfig config family, .notStarted⟩ := by
  rw [install, ByFamily.get_ofFunction, Environment.load_eq_some]

structure Session (σ τ : Type) where
  hooks : Hooks
  /-- All launches, in the order in which they were fired. -/
  launches : List Launch
  /-- The launch of the latest completed setup, until it is awaited or dropped. -/
  held : ByFamily (Option LaunchId)
  outside : Outside σ τ

namespace Session

def start (hooks : Hooks) (memory : σ) (commands : τ) : Session σ τ :=
  ⟨hooks, [], ⟨none, none⟩, ⟨memory, commands, []⟩⟩

def state? (session : Session σ τ) (family : Family) : Option SetupState :=
  (session.hooks.get family).map (·.state)

/-- Performs one action of a call on a family's environment. While a connection is being
scheduled the module's own calls are made, each by `callback`. -/
def perform (host : Host σ) (inRuntime : Bool)
    (callback : Family → Call → Session σ τ → Session σ τ) (family : Family) :
    (action : Action) → Session σ τ → action.Answer × Session σ τ
  | .guard op, session =>
    match session.hooks.get family with
    | none => (false, session)
    | some env =>
      let (changed, state) := env.state.apply op
      (changed, { session with hooks := session.hooks.set family (some { env with state }) })
  | .ask (.schedule module token), session =>
    let (calls, outside) := session.outside.ask host (.schedule module token)
    (calls, calls.foldl (fun session call => callback call.1 call.2 session)
      { session with outside })
  | .ask request, session =>
    let (answer, outside) := session.outside.ask host request
    (answer, { session with outside })
  | .launch launcher registry token, session =>
    (session.launches.length,
      { session with
        launches := session.launches ++ [.fire inRuntime launcher registry token] })

/-- A call on a family's environment. Before each of its actions the launches may go on, as
`background` has it. -/
def callWith (host : Host σ) (inRuntime : Bool) (background : Session σ τ → Session σ τ)
    (callback : Family → Call → Session σ τ → Session σ τ) (family : Family) (call : Call)
    (session : Session σ τ) : CallResult × Session σ τ :=
  match session.hooks.get family with
  | none => (.notLoaded, session)
  | some env =>
    match call with
    | .setup =>
      let (outcome, session) := env.setup.run
        (fun action session => perform host inRuntime callback family action (background session))
        session
      (.setup outcome, session)
    | .teardown =>
      let (outcome, session) := env.teardown.run
        (fun action session => perform host inRuntime callback family action (background session))
        session
      (.teardown outcome, session)
    | .state => (.state env.state, session)

/-- A call whose callbacks nest at most `depth` deep. -/
def callWithin (host : Host σ) (inRuntime : Bool) (background : Session σ τ → Session σ τ) :
    (depth : Nat) → Family → Call → Session σ τ → CallResult × Session σ τ
  | 0 => callWith host inRuntime background fun _ _ session => session
  | depth + 1 => callWith host inRuntime background fun family call session =>
    let (result, session) := callWithin host inRuntime background depth family call session
    { session with outside := session.outside.record (.reentrant family call result) }

/-- A call on a family, in the midst of what goes on in the background. Two levels of callbacks
are all there can be: a third would be scheduled by a setup that holds a guard beside two
others, and there are two guards. -/
def callAmid (host : Host σ) (inRuntime : Bool) (background : Session σ τ → Session σ τ)
    (family : Family) (call : Call) (session : Session σ τ) : CallResult × Session σ τ :=
  callWithin host inRuntime background Family.all.length family call session

/-- A call on a family while every launch waits. -/
def call (host : Host σ) (inRuntime : Bool) (family : Family) (call : Call)
    (session : Session σ τ) : CallResult × Session σ τ :=
  callAmid host inRuntime id family call session

/-- Holds the launch of a setup that has completed for the family. -/
def hold (family : Family) : CallResult × Session σ τ → CallResult × Session σ τ
  | (.setup (.completed token launch), session) =>
    (.setup (.completed token launch),
      { session with held := session.held.set family (some launch) })
  | answer => answer

/-- A setup whose launch, if it completes, is held for the family. -/
def setup (host : Host σ) (inRuntime : Bool) (family : Family) (session : Session σ τ) :
    CallResult × Session σ τ := hold family (session.call host inRuntime family .setup)

def teardown (host : Host σ) (family : Family) (session : Session σ τ) :
    CallResult × Session σ τ := session.call host true family .teardown

/-- Every launch goes as far as it can. -/
def run (host : Host σ) (executor : Executor τ) (session : Session σ τ) : Session σ τ :=
  let (launches, outside) := Launch.advanceAll host executor session.launches session.outside
  { session with launches, outside }

inductive Awaited where
  /-- No launch is held. -/
  | none
  /-- Its command has not ended. -/
  | pending
  | ended (outcome : LaunchOutcome)

/-- Runs all launches and takes the outcome of the family's own, if it is there. -/
def await (host : Host σ) (executor : Executor τ) (family : Family) (session : Session σ τ) :
    Awaited × Session σ τ :=
  let session := session.run host executor
  match session.held.get family with
  | none => (.none, session)
  | some launch =>
    match (session.launches[launch]?).bind Launch.exit? with
    | none => (.pending, session)
    | some exit =>
      (.ended exit.joined, { session with held := session.held.set family none })

/-- Lets go of the family's launch, which goes on by itself. -/
def drop (family : Family) (session : Session σ τ) : Bool × Session σ τ :=
  ((session.held.get family).isSome,
    { session with held := session.held.set family none })

/-- Puts a newly loaded environment in the place of the family's present one. -/
def replace (resolver : Resolver) (config : BootstrapConfig) (family : Family)
    (session : Session σ τ) : Bool × Session σ τ :=
  match Environment.load family resolver (.ofConfig config family) with
  | none => (false, session)
  | some env => (true, { session with hooks := session.hooks.set family (some env) })

end Session
end Rendezvous

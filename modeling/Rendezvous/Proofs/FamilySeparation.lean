import Rendezvous.Proofs.FamilyAlone
import Rendezvous.Proofs.LaunchDecoupling
import Rendezvous.Proofs.Resolution

/-! Separation of the families. Both are loaded from one resolver and one configuration, and
may have a module or a registry in common. A run makes calls on either of them in any order; an
account is kept of every call. Without the calls on the other family the accounts of a family
come out the same. -/
namespace Rendezvous

namespace Decoupling.Step

/-- The family on which a step calls, if it is a call. -/
def target? : Step σ τ → Option Family
  | .call _ _ family _ => some family
  | _ => none

/-- The call that a step makes on the family. -/
def callOn? (family : Family) : Step σ τ → Option Call
  | .call _ _ target kind => if target = family then some kind else none
  | _ => none

theorem aside_or_call (step : Step σ τ) : step.target? = none ∨
    ∃ inRuntime pace target kind, step = .call inRuntime pace target kind := by
  cases step <;> simp [target?]

theorem callOn?_aside {step : Step σ τ} (aside : step.target? = none) (family : Family) :
    step.callOn? family = none := by
  cases step <;> first | rfl | contradiction

end Decoupling.Step

namespace Separation

open Decoupling (Step Sight observe)

/-- What one call of a run leaves: what its caller sees, and the events until it has returned. -/
structure Account where
  family : Family
  sight : Sight
  events : List Event

def account? (host : Host σ) (executor : Executor τ) (step : Step σ τ) (session : Session σ τ) :
    Option Account := do
  let (sight, after) := step.take host executor session
  return ⟨← step.target?, ← sight, after.outside.log.drop session.outside.log.length⟩

/-- The accounts of all calls that the steps make. -/
def accounts (host : Host σ) (executor : Executor τ) :
    List (Step σ τ) → Session σ τ → List Account
  | [], _ => []
  | step :: rest, session =>
    (account? host executor step session).toList ++
      accounts host executor rest (step.take host executor session).2

/-- While the call went on, modules have called on its own family only. -/
def Account.Own (account : Account) : Prop := StaysWith account.family account.events

instance (account : Account) : Decidable account.Own :=
  inferInstanceAs (Decidable (StaysWith ..))

/-- What a call means to its family: how it ended, the guard after it, and what the module has
been handed. -/
structure Tale where
  result : CallResult
  guard : Option SetupState
  handed : List Request
  deriving DecidableEq, Repr

def Account.tale (account : Account) : Tale :=
  ⟨account.sight.result.unnumbered, account.sight.guards.get account.family,
    account.events.filterMap Event.handed?⟩

/-- The tales of the calls on one family. -/
def tales (family : Family) (accounts : List Account) : List Tale :=
  (accounts.filter (·.family = family)).map Account.tale

def callsOn (family : Family) (steps : List (Step σ τ)) : List Call :=
  steps.filterMap (Step.callOn? family)

/-- The steps that are no calls on the family. -/
def without (family : Family) (steps : List (Step σ τ)) : List (Step σ τ) :=
  steps.filter fun step => step.target? ≠ some family

/-- A call on what is loaded for a family, by itself: its tale, and what is loaded after it. -/
def alone (answers : (request : Request) → request.Answer) :
    Option Environment → Call → Tale × Option Environment
  | none, _ => (⟨.notLoaded, none, []⟩, none)
  | some env, call =>
    let (result, solo) := env.alone answers call
    (⟨result.unnumbered, some solo.guard, solo.heard⟩, some { env with state := solo.guard })

def allAlone (answers : (request : Request) → request.Answer) :
    List Call → Option Environment → List Tale × Option Environment
  | [], loaded => ([], loaded)
  | call :: rest, loaded =>
    let (tale, after) := alone answers loaded call
    let (tales, last) := allAlone answers rest after
    (tale :: tales, last)

theorem callsOn_append (family : Family) (earlier later : List (Step σ τ)) :
    callsOn family (earlier ++ later) = callsOn family earlier ++ callsOn family later :=
  List.filterMap_append

theorem callsOn_without {family other : Family} (apart : other ≠ family)
    (steps : List (Step σ τ)) : callsOn family (without other steps) = callsOn family steps := by
  rw [callsOn, without, List.filterMap_filter]
  refine List.filterMap_congr fun step _ => ?_
  cases step with
  | call _ _ target kind =>
    by_cases own : target = family
    · subst own
      simp [Step.target?, apart.symm]
    · simp [Step.callOn?, own]
  | _ => simp [Step.target?]

/-- A call leaves the module of its environment as it is. -/
theorem home_alone {host : Host σ} {loaded : Option Environment}
    (after : (alone answers loaded kind).2 = some env)
    (home : ∀ env, loaded = some env → host.Home family env.module) :
    host.Home family env.module := by
  cases loaded with
  | none => contradiction
  | some before =>
    obtain rfl := Option.some.inj after
    exact home before rfl

section Steps

variable (host : Host σ) (executor : Executor τ) (inRuntime : Bool)
  (pace : Session σ τ → List LaunchId) (session : Session σ τ) {family target : Family}

/-- Only what is held changes. -/
theorem hold_same (family : Family) (answer : CallResult × Session σ τ) :
    (Session.hold family answer).1 = answer.1 ∧
    (Session.hold family answer).2.hooks = answer.2.hooks ∧
    (Session.hold family answer).2.outside = answer.2.outside := by
  unfold Session.hold
  split <;> simp

theorem call_account (target : Family) (kind : Call) :
    let background := fun session => Decoupling.progressAll host executor (pace session) session
    let ran := session.callAmid host inRuntime background target kind
    let step := Step.call inRuntime pace target kind
    (step.take host executor session).2.hooks = ran.2.hooks ∧
    account? host executor step session =
      some ⟨target, ⟨ran.1, .ofFunction ran.2.state?⟩,
        ran.2.outside.log.drop session.outside.log.length⟩ := by
  intro background ran step
  obtain ⟨result, hooks, outside⟩ := hold_same target ran
  have guards : (Session.hold target ran).2.state? = ran.2.state? := by
    funext family
    simp only [Session.state?, hooks]
  refine ⟨hooks, ?_⟩
  change some (Account.mk target ⟨(Session.hold target ran).1,
    .ofFunction (Session.hold target ran).2.state?⟩
    ((Session.hold target ran).2.outside.log.drop session.outside.log.length)) = _
  rw [result, guards, outside]

/-- A step that is no call leaves the environments alone. -/
theorem take_aside {step : Step σ τ} (aside : step.target? = none) :
    account? host executor step session = none ∧
      (step.take host executor session).2.hooks = session.hooks := by
  cases step with
  | call => contradiction
  | change f => exact ⟨rfl, rfl⟩
  | _ => exact ⟨rfl, (Decoupling.take_background host executor _ session rfl).2.hooks⟩

theorem unloaded_account (absent : session.hooks.get family = none) (kind : Call) :
    let step := Step.call inRuntime pace family kind
    (step.take host executor session).2.hooks = session.hooks ∧
    account? host executor step session =
      some ⟨family, ⟨.notLoaded, .ofFunction session.state?⟩, []⟩ := by
  obtain ⟨hooks, account⟩ := call_account host executor inRuntime pace session family kind
  have away (depth : Nat) (background : Session σ τ → Session σ τ) :
      Session.callWithin host inRuntime background depth family kind session =
        (.notLoaded, session) := by
    cases depth <;> simp [Session.callWithin, Session.callWith, absent]
  rw [Session.callAmid, away] at hooks account
  exact ⟨hooks, by simpa using account⟩

/-- The tale of a call is the one of the call by itself, and so is what is loaded after it. -/
theorem own_account {answers : (request : Request) → request.Answer}
    (steady : host.Steady answers) (family : Family) (kind : Call) :
    let step := Step.call inRuntime pace family kind
    (step.take host executor session).2.hooks.get family =
      (alone answers (session.hooks.get family) kind).2 ∧
    ∃ account, account? host executor step session = some account ∧ account.family = family ∧
      (account.Own → account.tale = (alone answers (session.hooks.get family) kind).1) ∧
      ((∀ env, session.hooks.get family = some env → host.Home family env.module) →
        account.Own) := by
  cases loaded : session.hooks.get family with
  | none =>
    obtain ⟨hooks, account⟩ :=
      unloaded_account host executor inRuntime pace session loaded kind
    refine ⟨by rw [hooks, loaded]; rfl, _, account, rfl, fun _ => ?_, fun _ => ?_⟩
    · simp [Account.tale, alone, CallResult.unnumbered, Session.state?, loaded]
    · simp [Account.Own, StaysWith]
  | some env =>
    obtain ⟨hooks, account⟩ := call_account host executor inRuntime pace session family kind
    have comes := Session.callAmid_shows steady inRuntime
      (fun session => Session.progressAll_idle host executor (pace session) session) loaded kind
    generalize session.callAmid host inRuntime _ family kind = ran at hooks account comes
    obtain ⟨result, shows⟩ := comes
    obtain ⟨more, logged, handed, home⟩ := shows.log
    have guard : ran.2.state? family = some (env.alone answers kind).2.guard := by
      simp [Session.state?, shows.hooks]
    rw [logged, List.drop_left] at account
    refine ⟨by rw [hooks, shows.hooks]; rfl, _, account, rfl, fun own => ?_, fun homes => ?_⟩
    · simp [Account.tale, alone, result, guard, handed own]
    · exact home (homes env rfl)

/-- A call on one family leaves another one's environment to the modules that call across. -/
theorem other_account (apart : target ≠ family) (kind : Call) :
    let step := Step.call inRuntime pace target kind
    ∃ account, account? host executor step session = some account ∧ account.family = target ∧
      (account.Own →
        (step.take host executor session).2.hooks.get family = session.hooks.get family) ∧
      (session.hooks.get family = none →
        (step.take host executor session).2.hooks.get family = none) := by
  have idle (session : Session σ τ) :=
    Session.progressAll_idle host executor (pace session) session
  obtain ⟨hooks, account⟩ := call_account host executor inRuntime pace session target kind
  have spares : session.Spares target family
      (session.callAmid host inRuntime _ target kind).2 :=
    Session.callWithin_spares host inRuntime idle Family.all.length target family kind session
  have keeps : session.KeepsFor family (session.callAmid host inRuntime _ target kind).2 :=
    Session.callWithin_keeps (fun session => (idle session).hooks) Family.all.length target kind
      session family
  generalize session.callAmid host inRuntime _ target kind = ran at hooks account spares keeps
  obtain ⟨more, logged, kept⟩ := spares
  rw [logged, List.drop_left] at account
  refine ⟨_, account, rfl, fun own => ?_, fun absent => ?_⟩
  · rw [hooks]
    exact kept apart fun crossed => apart (own family crossed).symm
  · rw [hooks, keeps, absent]
    intro env loaded
    rw [absent] at loaded
    contradiction

end Steps

section Runs

variable {host : Host σ} (executor : Executor τ) {answers : (request : Request) → request.Answer}
  (steady : host.Steady answers) (family : Family) (step : Step σ τ) (steps : List (Step σ τ))
  (session : Session σ τ)

@[simp] theorem mem_accounts_cons {account : Account} :
    account ∈ accounts host executor (step :: steps) session ↔
      account? host executor step session = some account ∨
        account ∈ accounts host executor steps (step.take host executor session).2 := by
  simp [accounts]

theorem allAlone_append (first second : List Call) (loaded : Option Environment) :
    allAlone answers (first ++ second) loaded =
      ((allAlone answers first loaded).1 ++
          (allAlone answers second (allAlone answers first loaded).2).1,
        (allAlone answers second (allAlone answers first loaded).2).2) := by
  induction first generalizing loaded with
  | nil => rfl
  | cons call rest ih => simp [allAlone, ih]

include steady in
/-- A step that calls nobody across tells of the family what its calls come to by themselves. -/
theorem step_tells (own : ∀ account, account? host executor step session = some account →
      account.Own) :
    tales family (account? host executor step session).toList =
      (allAlone answers (callsOn family [step]) (session.hooks.get family)).1 ∧
    (step.take host executor session).2.hooks.get family =
      (allAlone answers (callsOn family [step]) (session.hooks.get family)).2 := by
  rcases step.aside_or_call with aside | ⟨inRuntime, pace, target, kind, rfl⟩
  · obtain ⟨silent, same⟩ := take_aside host executor session aside
    simp [silent, same, callsOn, Step.callOn?_aside aside, tales, allAlone]
  · by_cases same : target = family
    · subst same
      obtain ⟨hooks, account, kept, name, tale, _⟩ :=
        own_account host executor inRuntime pace session steady target kind
      have told := tale (own account kept)
      simp [kept, hooks, tales, name, told, callsOn, Step.callOn?, allAlone]
    · obtain ⟨account, kept, name, apart, _⟩ :=
        other_account host executor inRuntime pace session same kind
      have still := apart (own account kept)
      simp [kept, still, tales, name, same, callsOn, Step.callOn?, allAlone]

include steady in
/-- While no module calls across, the tales of a family are those of its calls by themselves. -/
theorem accounts_tell (own : ∀ account ∈ accounts host executor steps session, account.Own) :
    tales family (accounts host executor steps session) =
      (allAlone answers (callsOn family steps) (session.hooks.get family)).1 ∧
    (observe host executor steps session).2.hooks.get family =
      (allAlone answers (callsOn family steps) (session.hooks.get family)).2 := by
  induction steps generalizing session with
  | nil => exact ⟨rfl, rfl⟩
  | cons step rest ih =>
    obtain ⟨first, after⟩ := step_tells executor steady family step session fun account kept =>
      own account ((mem_accounts_cons ..).mpr (.inl kept))
    obtain ⟨others, last⟩ := ih (step.take host executor session).2 fun account member =>
      own account ((mem_accounts_cons ..).mpr (.inr member))
    rw [after] at others last
    rw [← List.singleton_append, callsOn_append, allAlone_append]
    refine ⟨?_, last⟩
    rw [← first, ← others]
    simp [accounts, tales]

/-- Every loaded module keeps to its family. -/
def Homely (host : Host σ) (hooks : Hooks) : Prop :=
  ∀ family env, hooks.get family = some env → host.Home family env.module

include steady in
theorem step_own (homely : Homely host session.hooks) :
    Homely host (step.take host executor session).2.hooks ∧
      ∀ account, account? host executor step session = some account → account.Own := by
  rcases step.aside_or_call with aside | ⟨inRuntime, pace, target, kind, rfl⟩
  · obtain ⟨silent, same⟩ := take_aside host executor session aside
    rw [silent, same]
    exact ⟨homely, by simp⟩
  · obtain ⟨hooks, account, kept, _, _, home⟩ :=
      own_account host executor inRuntime pace session steady target kind
    have own : account.Own := home (homely target)
    refine ⟨fun family env loaded => ?_, fun other found => ?_⟩
    · by_cases same : target = family
      · subst same
        rw [hooks] at loaded
        exact home_alone loaded (homely target)
      · obtain ⟨_, again, _, apart, _⟩ :=
          other_account host executor inRuntime pace session same kind
        obtain rfl := Option.some.inj (kept.symm.trans again)
        rw [apart own] at loaded
        exact homely family env loaded
    · obtain rfl := Option.some.inj (kept.symm.trans found)
      exact own

include steady in
/-- Modules that keep to the families for which they are loaded never call across. -/
theorem accounts_own (homely : Homely host session.hooks) :
    ∀ account ∈ accounts host executor steps session, account.Own := by
  induction steps generalizing session with
  | nil => simp [accounts]
  | cons step rest ih =>
    obtain ⟨after, own⟩ := step_own executor steady step session homely
    intro account member
    rcases (mem_accounts_cons ..).mp member with first | later
    · exact own account first
    · exact ih _ after account later

variable {family}

theorem step_unloaded (absent : session.hooks.get family = none) :
    (step.take host executor session).2.hooks.get family = none ∧
      ∀ account, account? host executor step session = some account → account.family = family →
        account.sight.result = .notLoaded ∧ account.events = [] := by
  rcases step.aside_or_call with aside | ⟨inRuntime, pace, target, kind, rfl⟩
  · obtain ⟨silent, same⟩ := take_aside host executor session aside
    rw [silent, same]
    exact ⟨absent, by simp⟩
  · by_cases same : target = family
    · subst same
      obtain ⟨hooks, kept⟩ := unloaded_account host executor inRuntime pace session absent kind
      refine ⟨by rwa [hooks], fun account found _ => ?_⟩
      obtain rfl := Option.some.inj (kept.symm.trans found)
      exact ⟨rfl, rfl⟩
    · obtain ⟨other, kept, name, _, still⟩ :=
        other_account host executor inRuntime pace session same kind
      refine ⟨still absent, fun account found own => ?_⟩
      obtain rfl := Option.some.inj (kept.symm.trans found)
      exact absurd (name.symm.trans own) same

/-- Calls on a family that is not loaded are told so, and nothing is done. -/
theorem accounts_unloaded (absent : session.hooks.get family = none) :
    ∀ account ∈ accounts host executor steps session, account.family = family →
      account.sight.result = .notLoaded ∧ account.events = [] := by
  induction steps generalizing session with
  | nil => simp [accounts]
  | cons step rest ih =>
    obtain ⟨after, silent⟩ := step_unloaded executor step session absent
    intro account member own
    rcases (mem_accounts_cons ..).mp member with first | later
    · exact silent account first own
    · exact ih _ after account later own

end Runs

theorem installed_iff {resolver : Resolver} {config : BootstrapConfig} {family : Family}
    {env : Environment} :
    (Hooks.install resolver config).get family = some env ↔
      ∃ source module, resolver.Wins family.moduleName source (.module module) ∧
        env = ⟨family, module, resolver, .ofConfig config family, .notStarted⟩ := by
  have found := resolver.module_found family.moduleName
  rw [Hooks.get_install_eq_some]
  constructor
  · rintro ⟨module, present, rfl⟩
    obtain ⟨source, wins⟩ := (found module).mp present
    exact ⟨source, module, wins, rfl⟩
  · rintro ⟨source, module, wins, rfl⟩
    exact ⟨module, (found module).mpr ⟨source, wins⟩, rfl⟩

/-- The families stay apart, also where they have a module or a registry in common. A family is
loaded just when a module wins its name, and with its own settings. If it is not, calls on it
are told so and ask nothing. While no module calls across, and one that keeps to its family never
does, taking away all calls on the other family changes nothing for it: the results, the guard
after each of its calls and wherever the steps may end, and what its module is handed. -/
theorem families_apart (resolver : Resolver) (config : BootstrapConfig) {host : Host σ}
    {answers : (request : Request) → request.Answer} (steady : host.Steady answers)
    (executor : Executor τ) (steps : List (Step σ τ)) (memory : σ) (commands : τ)
    {family other : Family} (apart : other ≠ family) :
    let start : Session σ τ := .start (.install resolver config) memory commands
    let whole := accounts host executor steps start
    let rest := accounts host executor (without other steps) start
    ((start.hooks.get family).isSome = true ↔
      ∃ source module, resolver.Wins family.moduleName source (.module module)) ∧
    (∀ env, start.hooks.get family = some env → env.family = family ∧
      env.settings = .ofConfig config family ∧
      ∃ source, resolver.Wins family.moduleName source (.module env.module)) ∧
    (start.hooks.get family = none → ∀ account ∈ whole, account.family = family →
      account.sight.result = .notLoaded ∧ account.events = []) ∧
    ((∀ account ∈ whole, account.Own) → (∀ account ∈ rest, account.Own) →
      tales family whole = tales family rest ∧
      (observe host executor steps start).2.state? family =
        (observe host executor (without other steps) start).2.state? family) ∧
    (Homely host start.hooks →
      (∀ account ∈ whole, account.Own) ∧ ∀ account ∈ rest, account.Own) := by
  intro start whole rest
  refine ⟨?_, ?_, accounts_unloaded executor steps start, ?_, ?_⟩
  · rw [Option.isSome_iff_exists]
    constructor
    · rintro ⟨env, loaded⟩
      obtain ⟨source, module, wins, _⟩ := installed_iff.mp loaded
      exact ⟨source, module, wins⟩
    · rintro ⟨source, module, wins⟩
      exact ⟨_, installed_iff.mpr ⟨source, module, wins, rfl⟩⟩
  · intro env loaded
    obtain ⟨source, module, wins, rfl⟩ := installed_iff.mp loaded
    exact ⟨rfl, rfl, source, wins⟩
  · intro ownWhole ownRest
    obtain ⟨tales₁, last₁⟩ := accounts_tell executor steady family steps start ownWhole
    obtain ⟨tales₂, last₂⟩ :=
      accounts_tell executor steady family (without other steps) start ownRest
    rw [callsOn_without apart] at tales₂ last₂
    exact ⟨tales₁.trans tales₂.symm, by simp only [Session.state?, last₁, last₂]⟩
  · intro homely
    exact ⟨accounts_own executor steady steps start homely,
      accounts_own executor steady (without other steps) start homely⟩

/-- The objects are written down and never change; what a module calls back is in the memory. -/
def fixedHost (stage : Rehearsal.Stage) : Host (List (Family × Call)) where
  answer
    | .schedule .., calls => (calls, calls)
    | request, calls => ((Rehearsal.stageHost.answer request stage).1, calls)

theorem fixedHost_steady (stage : Rehearsal.Stage) :
    (fixedHost stage).Steady fun request => (Rehearsal.stageHost.answer request stage).1 := by
  intro request memory question
  cases request <;> first | rfl | contradiction

/-- One module serves both families. -/
def sharedResolver : Resolver :=
  .ofHistory [⟨.native, "process", .process "p"⟩,
    ⟨.native, "application.abilityDelegatorRegistry", .registry "r"⟩,
    ⟨.native, "uitest", .module "m"⟩, ⟨.plugin, "test.PerfTest", .module "m"⟩]

/-- The module calls back on the family that has just handed it a token. -/
def sharedSteps : List (Step (List (Family × Call)) Unit) :=
  [.change fun _ => [(.ui, .setup)], .call true (fun _ => []) .ui .setup,
    .change fun _ => [(.perf, .setup), (.perf, .teardown)], .call true (fun _ => [0]) .ui .teardown,
    .call false (fun _ => [0]) .perf .setup, .run, .call true (fun _ => []) .ui .setup,
    .call true (fun _ => []) .perf .setup, .call true (fun _ => [1]) .perf .teardown]

/-- Both families share a module, a registry and their launches, and the module calls back. -/
theorem shared_module_apart :
    let host := fixedHost Decoupling.smallStage
    let executor := Decoupling.stubborn none
    let start := .start (.install sharedResolver { requireTestMode := false }) [] ()
    let whole := accounts host executor sharedSteps start
    let rest := accounts host executor (without .ui sharedSteps) start
    (∀ account ∈ whole, account.Own) ∧ (∀ account ∈ rest, account.Own) ∧
    tales .perf whole = tales .perf rest ∧
    tales .perf rest =
      [⟨.setup (.completed ⟨"app@7@2@1"⟩ 0), some .done, [.schedule "m" ⟨"app@7@2@1"⟩]⟩,
        ⟨.setup .alreadyInitialized, some .done, []⟩,
        ⟨.teardown .tornDown, some .tornDown, [.dispose "m"]⟩] := by
  intro host executor start whole rest
  have ownWhole : ∀ account ∈ whole, account.Own := by decide +kernel
  have ownRest : ∀ account ∈ rest, account.Own := by decide +kernel
  have separated := families_apart sharedResolver { requireTestMode := false }
    (fixedHost_steady Decoupling.smallStage) executor sharedSteps [] ()
    (show Family.ui ≠ .perf by decide)
  exact ⟨ownWhole, ownRest, (separated.2.2.2.1 ownWhole ownRest).1, by decide +kernel⟩

end Separation
end Rendezvous

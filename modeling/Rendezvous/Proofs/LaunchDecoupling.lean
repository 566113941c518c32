import Rendezvous.Proofs.Background
import Rendezvous.Rehearsal

/-! Launch decoupling. Two runs of one session make the same calls over hosts that answer the
calls alike, and their executors have nothing in common. The calls return the same, the guards stand
the same, and the modules hear the same, as long as the launches look up their delegators at the
same moments in both runs. Where they do so at different moments, or since a setup has a runtime in
one run alone not at all, nothing may hang on these look-ups: a host that counts them can tell the
runs apart. -/
namespace Rendezvous

/-- Two hosts that differ only in what becomes of commands: related memories answer alike and stay
related. -/
structure Host.Alike (related : σ₁ → σ₂ → Prop) (host₁ : Host σ₁) (host₂ : Host σ₂) : Prop where
  answer : ∀ request m₁ m₂, related m₁ m₂ →
    (host₁.answer request m₁).1 = (host₂.answer request m₂).1
  memory : ∀ request m₁ m₂, related m₁ m₂ →
    related (host₁.answer request m₁).2 (host₂.answer request m₂).2

/-- Nothing hangs on a launch looking up its delegator: memories stay related after it has done so
in one run alone. -/
structure Host.Unmoved (related : σ₁ → σ₂ → Prop) (host₁ : Host σ₁) (host₂ : Host σ₂) : Prop where
  left : ∀ registry m₁ m₂, related m₁ m₂ →
    related (host₁.answer (.delegator registry) m₁).2 m₂
  right : ∀ registry m₁ m₂, related m₁ m₂ →
    related m₁ (host₂.answer (.delegator registry) m₂).2

theorem Host.Unmoved.symm {related : σ₁ → σ₂ → Prop} {host₁ : Host σ₁} {host₂ : Host σ₂}
    (unmoved : Host.Unmoved related host₁ host₂) :
    Host.Unmoved (fun m₂ m₁ => related m₁ m₂) host₂ host₁ :=
  ⟨fun registry m₂ m₁ => unmoved.right registry m₁ m₂,
    fun registry m₂ m₁ => unmoved.left registry m₁ m₂⟩

namespace Launch

/-- Whether there is no look-up of a delegator to come. -/
def begun (launch : Launch) : Bool :=
  match launch.stage with
  | .created => false
  | _ => true

variable (host : Host σ) (executor : Executor τ) (launch : Launch) (outside : Outside σ τ)

end Launch

namespace Decoupling

/-- Two sessions that no call can tell apart, whose launches have the same `view`. -/
structure Alike (related : σ₁ → σ₂ → Prop) (view : Launch → α) (s₁ : Session σ₁ τ₁)
    (s₂ : Session σ₂ τ₂) : Prop where
  hooks : s₁.hooks = s₂.hooks
  launches : s₁.launches.map view = s₂.launches.map view
  memory : related s₁.outside.memory s₂.outside.memory
  log : s₁.outside.log.filter Event.ofCall = s₂.outside.log.filter Event.ofCall

section Simulation

variable {related : σ₁ → σ₂ → Prop} {host₁ : Host σ₁} {host₂ : Host σ₂} {view : Launch → α}
  {s₁ : Session σ₁ τ₁} {s₂ : Session σ₂ τ₂}

theorem Alike.symm (alike : Alike related view s₁ s₂) :
    Alike (fun m₂ m₁ => related m₁ m₂) view s₂ s₁ :=
  ⟨alike.hooks.symm, alike.launches.symm, alike.memory, alike.log.symm⟩

theorem Alike.guards (alike : Alike related view s₁ s₂) : s₁.state? = s₂.state? := by
  funext family
  simp only [Session.state?, alike.hooks]

theorem Alike.count (alike : Alike related view s₁ s₂) :
    s₁.launches.length = s₂.launches.length := by
  simpa using congrArg List.length alike.launches

variable {inRuntime₁ inRuntime₂ : Bool} {background₁ : Session σ₁ τ₁ → Session σ₁ τ₁}
  {background₂ : Session σ₂ τ₂ → Session σ₂ τ₂}

section Besides

/-- Nothing of a launch but that it is there. -/
def present (_ : Launch) : Unit := ()

theorem map_present (launches : List Launch) :
    launches.map present = List.replicate launches.length () := List.map_const' ..

theorem lookUps_related (unmoved : Host.Unmoved related host₁ host₂) (registries : List Handle)
    (memories : related m₁ m₂) :
    related (host₁.after (registries.map .delegator) m₁) m₂ := by
  induction registries generalizing m₁ with
  | nil => exact memories
  | cons registry rest ih => exact ih (unmoved.left registry m₁ m₂ memories)

/-- What goes on in the background of one run alone cannot be told from the other, if nothing hangs
on look-ups. -/
theorem Alike.left (unmoved : Host.Unmoved related host₁ host₂)
    (alike : Alike related present s₁ s₂) (moved : Background host₁ s₁ after) :
    Alike related present after s₂ := by
  obtain ⟨registries, memory⟩ := moved.outside.memory
  refine ⟨moved.hooks.trans alike.hooks, ?_, ?_, moved.outside.log.trans alike.log⟩
  · rw [map_present, moved.launches, alike.count, map_present]
  · rw [memory]
    exact lookUps_related unmoved registries alike.memory

theorem Alike.right (unmoved : Host.Unmoved related host₁ host₂)
    (alike : Alike related present s₁ s₂) (moved : Background host₂ s₂ after) :
    Alike related present s₁ after :=
  (alike.symm.left unmoved.symm moved).symm

variable (hosts : Host.Alike related host₁ host₂) (executor₁ : Executor τ₁)
  (executor₂ : Executor τ₂)
include hosts

end Besides

end Simulation

/-- One step of a run. A call has a runtime or none; before each of its actions those launches
go on that `pace` picks. -/
inductive Step (σ τ : Type) where
  | call (inRuntime : Bool) (pace : Session σ τ → List LaunchId) (family : Family) (kind : Call)
  /-- The host changes by itself. -/
  | change (f : σ → σ)
  | progress (launch : LaunchId)
  | run
  | await (family : Family)
  | drop (family : Family)

/-- What a caller sees of a call: its result, and the guards after it. -/
structure Sight where
  result : CallResult
  guards : ByFamily (Option SetupState)

namespace Step

def isBackground : Step σ τ → Bool
  | .call .. | .change _ => false
  | _ => true

def take (host : Host σ) (executor : Executor τ) :
    Step σ τ → Session σ τ → Option Sight × Session σ τ
  | .call inRuntime pace family kind, session =>
    let background := fun session => progressAll host executor (pace session) session
    let (result, session) :=
      Session.hold family (session.callAmid host inRuntime background family kind)
    (some ⟨result, .ofFunction session.state?⟩, session)
  | .change f, session => (none, { session with outside.memory := f session.outside.memory })
  | .progress launch, session => (none, Decoupling.progress host executor launch session)
  | .run, session => (none, session.run host executor)
  | .await family, session => (none, (session.await host executor family).2)
  | .drop family, session => (none, (session.drop family).2)

end Step

/-- Takes all steps, and gathers what the callers see. -/
def observe (host : Host σ) (executor : Executor τ) :
    List (Step σ τ) → Session σ τ → List Sight × Session σ τ
  | [], session => ([], session)
  | step :: rest, session =>
    let (sight, session) := step.take host executor session
    let (sights, session) := observe host executor rest session
    (sight.toList ++ sights, session)

/-- A step that is no call is seen by nobody. -/
theorem take_background (host : Host σ) (executor : Executor τ) (step : Step σ τ)
    (session : Session σ τ) (aside : step.isBackground) :
    (step.take host executor session).1 = none ∧
    Background host session (step.take host executor session).2 := by
  cases step with
  | call | change => contradiction
  | progress launch => exact ⟨rfl, progress_background ..⟩
  | run => exact ⟨rfl, run_background ..⟩
  | await family => exact ⟨rfl, await_background ..⟩
  | drop family => exact ⟨rfl, hold_background ..⟩

section Runs

variable {related : σ₁ → σ₂ → Prop} {host₁ : Host σ₁} {host₂ : Host σ₂} {view : Launch → α}
  {inRuntime₁ inRuntime₂ : Bool} {s₁ : Session σ₁ τ₁} {s₂ : Session σ₂ τ₂}
  (hosts : Host.Alike related host₁ host₂) (executor₁ : Executor τ₁) (executor₂ : Executor τ₂)
include hosts

end Runs

/-- Every command ends at once with the reply, or never without one. -/
def stubborn (reply : Option Reply) : Executor Unit where
  start _ _ _ commands := (0, commands)
  poll _ commands := (reply, commands)

def smallStage : Rehearsal.Stage :=
  { processes := [("p", ⟨7, 2⟩)], registries := [("r", some 0)], contexts := [⟨"app", 1⟩] }

/-- Two families with one registry, of an application that is known to the delegator alone. -/
def bothFamilies : Resolver :=
  .ofHistory [⟨.native, "process", .process "p"⟩,
    ⟨.native, "application.abilityDelegatorRegistry", .registry "r"⟩,
    ⟨.native, "uitest", .module "m"⟩, ⟨.native, "test.PerfTest", .module "n"⟩]

end Decoupling
end Rendezvous

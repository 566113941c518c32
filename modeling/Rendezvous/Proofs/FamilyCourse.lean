import Rendezvous.Proofs.CallStack

/-! The course of one family through a session: how far its setup has come, and how far the
launch that the setup has fired. The journal of a family spells at most one hand-over, one
look-up of the launch and one start, in this order and all for one token; this follows from
the course alone, whatever the calls of the other family do in between. -/
namespace Rendezvous.CallStack

open Interleaving (isQuestion)

/-- What a launch has done. -/
inductive Conduct where
  | waiting
  /-- Fired without a registry or outside a runtime, it does nothing. -/
  | barren
  | skipped
  | found (delegator : Delegator)
  | begun (delegator : Delegator)

namespace Conduct

def ofFire (inRuntime : Bool) (registry : Option Handle) : Conduct :=
  if inRuntime && registry.isSome then .waiting else .barren

def ofOffer : Option Delegator → Conduct
  | none => .skipped
  | some delegator => .found delegator

/-- What has been offered to the launch. -/
def offers : Conduct → List (Option Delegator)
  | .waiting | .barren => []
  | .skipped => [none]
  | .found delegator | .begun delegator => [some delegator]

def starts : Conduct → Nat
  | .begun _ => 1
  | _ => 0

end Conduct

/-- The launch that a setup has fired. -/
structure Fired where
  token : Token
  launch : LaunchId
  inRuntime : Bool

/-- What has happened to a setup since it fired its launch. -/
inductive Since where
  | firing
  /-- The guard is done, but the setup has not returned yet. -/
  | marked
  | returned
  | closed

/-- How far a family has come. -/
inductive Standing where
  | idle
  | held
  | handed (token : Token)
  | fired (made : Fired) (conduct : Conduct) (since : Since)

namespace Standing

def guard : Standing → SetupState
  | .idle => .notStarted
  | .held | .handed _ | .fired _ _ .firing => .inProgress
  | .fired _ _ .marked | .fired _ _ .returned => .done
  | .fired _ _ .closed => .tornDown

/-- A setup that has begun is still under way. -/
def busy : Standing → Bool
  | .held | .handed _ | .fired _ _ .firing | .fired _ _ .marked => true
  | _ => false

def token? : Standing → Option Token
  | .idle | .held => none
  | .handed token => some token
  | .fired made _ _ => some made.token

/-- The launch of a setup that has returned. -/
def made? : Standing → Option Fired
  | .fired made _ .returned | .fired made _ .closed => some made
  | _ => none

def offers : Standing → List (Option Delegator)
  | .fired _ conduct _ => conduct.offers
  | _ => []

def starts : Standing → Nat
  | .fired _ conduct _ => conduct.starts
  | _ => 0

theorem made?_fired (finished : made? standing = some made) :
    ∃ conduct since, standing = .fired made conduct since := by
  rcases standing with _ | _ | _ | ⟨made, conduct, since⟩
  · contradiction
  · contradiction
  · contradiction
  · cases since <;> simp_all [made?]

theorem made?_token (finished : made? standing = some made) :
    standing.token? = some made.token := by
  obtain ⟨conduct, since, rfl⟩ := made?_fired finished
  rfl

/-- A family at rest is fresh, or its setup has returned. -/
theorem rest_cases (standing : Standing) (rest : standing.busy = false) :
    standing = .idle ∨ ∃ made, standing.made? = some made := by
  rcases standing with _ | _ | _ | ⟨made, conduct, since⟩
  · exact .inl rfl
  · contradiction
  · contradiction
  · cases since <;> simp_all [busy, made?]

end Standing

/-- One deed of a family whose environment is this, if it is loaded at all. -/
inductive Next : Option Environment → Standing → Deed → Standing → Prop where
  | begin : Next (some env) .idle (.guard .tryBegin true) .held
  | late (taken : standing.guard ≠ .notStarted) :
      Next loaded standing (.guard .tryBegin false) standing
  | ask (question : isQuestion request = true) : Next loaded .held (.asked request) .held
  | giveUp : Next loaded .held (.guard .abort true) .idle
  | handOver : Next (some env) .held (.asked (.schedule env.module token)) (.handed token)
  | fire : Next (some env) (.handed token) (.fired launch)
      (.fired ⟨token, launch, inRuntime⟩ (.ofFire inRuntime env.resolver.registry) .firing)
  | complete : Next loaded (.fired made conduct .firing) (.guard .complete true)
      (.fired made conduct .marked)
  | finish : Next loaded (.fired made conduct .marked)
      (.returned .setup made.inRuntime nested (.setup (.completed made.token made.launch))
        (some .done)) (.fired made conduct .returned)
  | close : Next loaded (.fired made conduct .returned) (.guard .tryTeardown true)
      (.fired made conduct .closed)
  | early (undone : standing.guard ≠ .done) :
      Next loaded standing (.guard .tryTeardown false) standing
  | dispose : Next (some env) (.fired made conduct .closed) (.asked (.dispose env.module))
      (.fired made conduct .closed)
  | answer (guard : Option SetupState)
      (other : ∀ token launch, result ≠ .setup (.completed token launch)) :
      Next loaded standing (.returned call inRuntime nested result guard) standing
  | lookUp (registered : env.resolver.registry = some registry) :
      Next (some env) (.fired made .waiting since) (.lookedUp made.launch registry offer)
        (.fired made (.ofOffer offer) since)
  | start (registered : env.resolver.registry = some registry) :
      Next (some env) (.fired made (.found delegator) since)
        (.started made.launch registry (env.family.startCommand made.token)
          env.settings.timeoutUnits) (.fired made (.begun delegator) since)
  | stop : Next loaded (.fired made (.begun delegator) since) (.ended made.launch registry)
      (.fired made (.begun delegator) since)

namespace Next

variable {loaded : Option Environment} {standing after : Standing} {deed : Deed}

/-- A setup that has returned completed has just done so or had done so before. -/
theorem made_cases (next : Next loaded standing deed after) (finished : after.made? = some made) :
    (∃ nested, deed = .returned .setup made.inRuntime nested
        (.setup (.completed made.token made.launch)) (some .done) ∧
      standing.token? = some made.token) ∨ standing.made? = some made := by
  cases next with
  | finish =>
    obtain rfl : _ = made := by simpa [Standing.made?] using finished
    exact .inl ⟨_, rfl, rfl⟩
  | @lookUp _ _ _ since | @start _ _ _ _ since => cases since <;> exact .inr finished
  | _ => exact .inr finished

/-- Once a setup has returned completed, it has done so for good. -/
theorem made_kept (next : Next loaded standing deed after) (finished : standing.made? = some made) :
    after.made? = some made := by
  cases next with
  | @lookUp _ _ _ since | @start _ _ _ _ since => cases since <;> exact finished
  | begin | ask | giveUp | handOver | fire | complete | finish => contradiction
  | _ => exact finished

end Next

/-- The deeds that lead a fresh family to a standing. -/
inductive Spells (loaded : Option Environment) : List Deed → Standing → Prop where
  | nil : Spells loaded [] .idle
  | snoc : Spells loaded own standing → Next loaded standing deed after →
      Spells loaded (own ++ [deed]) after

namespace Deed

def handedOver? : Deed → Option Token
  | .asked (.schedule _ token) => some token
  | _ => none

def offer? : Deed → Option (Option Delegator)
  | .lookedUp _ _ offer => some offer
  | _ => none

def isStart : Deed → Bool
  | .started .. => true
  | _ => false

theorem handedOver?_question (question : isQuestion request = true) :
    handedOver? (.asked request) = none := by
  cases request <;> simp_all [isQuestion, handedOver?]

end Deed

/-- The tokens that a family has handed over. -/
def handOvers (own : List Deed) : List Token := own.filterMap Deed.handedOver?

/-- What was offered to the launches of a family when they looked for a delegator. -/
def lookUps (own : List Deed) : List (Option Delegator) := own.filterMap Deed.offer?

/-- How many commands the launches of a family have started. -/
def starts (own : List Deed) : Nat := own.countP Deed.isStart

namespace Spells

variable {loaded : Option Environment} {own : List Deed} {standing : Standing}

theorem handOvers_eq (spells : Spells loaded own standing) :
    handOvers own = standing.token?.toList := by
  induction spells with
  | nil => rfl
  | snoc _ next ih =>
    rw [handOvers, List.filterMap_append, ← handOvers, ih]
    cases next with
    | ask question => simp [Deed.handedOver?_question question, Standing.token?]
    | _ => simp [Deed.handedOver?, Standing.token?]

theorem lookUps_eq (spells : Spells loaded own standing) :
    lookUps own = standing.offers := by
  induction spells with
  | nil => rfl
  | snoc _ next ih =>
    rw [lookUps, List.filterMap_append, ← lookUps, ih]
    cases next with
    | @lookUp _ _ _ _ offer =>
      cases offer <;> simp [Deed.offer?, Standing.offers, Conduct.offers, Conduct.ofOffer]
    | @fire env _ _ inRuntime =>
      cases waits : inRuntime && env.resolver.registry.isSome <;>
        simp [Deed.offer?, Standing.offers, Conduct.offers, Conduct.ofFire, waits]
    | _ => simp [Deed.offer?, Standing.offers, Conduct.offers]

theorem starts_eq (spells : Spells loaded own standing) : starts own = standing.starts := by
  induction spells with
  | nil => rfl
  | snoc _ next ih =>
    rw [starts, List.countP_append, ← starts, ih]
    cases next with
    | @lookUp _ _ _ _ offer =>
      cases offer <;> simp [Deed.isStart, Standing.starts, Conduct.starts, Conduct.ofOffer]
    | @fire env _ _ inRuntime =>
      cases waits : inRuntime && env.resolver.registry.isSome <;>
        simp [Deed.isStart, Standing.starts, Conduct.starts, Conduct.ofFire, waits]
    | _ => simp [Deed.isStart, Standing.starts, Conduct.starts]

/-- A family that is not loaded stays where it is. -/
theorem unloaded (spells : Spells none own standing) : standing = .idle := by
  induction spells with
  | nil => rfl
  | snoc _ next ih =>
    subst ih
    cases next <;> rfl

/-- A launch is barren unless it was fired in a runtime and with a registry. -/
theorem conduct_barren (spells : Spells (some env) own (.fired made conduct since)) :
    conduct = .barren ↔ ¬ (made.inRuntime = true ∧ env.resolver.registry ≠ none) := by
  generalize equal : Standing.fired made conduct since = standing at spells
  induction spells generalizing conduct since with
  | nil => contradiction
  | snoc _ next ih =>
    cases next with
    | @fire _ _ _ inRuntime =>
      obtain ⟨rfl, rfl, rfl⟩ := Standing.fired.inj equal
      cases inRuntime <;> cases env.resolver.registry <;> simp [Conduct.ofFire]
    | @lookUp _ _ _ _ offer =>
      obtain ⟨rfl, rfl, rfl⟩ := Standing.fired.inj equal
      have waiting := ih rfl
      cases offer <;> simp_all [Conduct.ofOffer]
    | start =>
      obtain ⟨rfl, rfl, rfl⟩ := Standing.fired.inj equal
      have found := ih rfl
      simp_all
    | complete | finish | close | stop | dispose =>
      obtain ⟨rfl, rfl, rfl⟩ := Standing.fired.inj equal
      exact ih rfl
    | late | early | answer => exact ih equal
    | _ => contradiction

/-- A launch that is offered a delegator starts its command at once. -/
theorem started (spells : Spells (some env) own (.fired made .waiting since))
    (registered : env.resolver.registry = some registry) (delegator : Delegator) :
    Spells (some env)
      (own ++ [.lookedUp made.launch registry (some delegator), .started made.launch registry
        (env.family.startCommand made.token) env.settings.timeoutUnits])
      (.fired made (.begun delegator) since) := by
  have found : Spells (some env) (own ++ [.lookedUp made.launch registry (some delegator)])
      (.fired made (.found delegator) since) := spells.snoc (.lookUp registered)
  simpa using found.snoc (.start registered)

theorem handed_mem (spells : Spells (some env) own standing)
    (handed : standing.token? = some token) : .asked (.schedule env.module token) ∈ own := by
  induction spells with
  | nil => simp [Standing.token?] at handed
  | snoc _ next ih => cases next <;> simp_all [Standing.token?]

/-- A setup that has returned completed has handed over its token before, and has left the
guard done. -/
theorem made_returned (spells : Spells (some env) own standing)
    (finished : standing.made? = some made) :
    ∃ nested, [.asked (.schedule env.module made.token),
      .returned .setup made.inRuntime nested (.setup (.completed made.token made.launch))
        (some .done)].Sublist own := by
  induction spells generalizing made with
  | nil => simp [Standing.made?] at finished
  | snoc spells next ih =>
    rcases next.made_cases finished with ⟨nested, rfl, handed⟩ | before
    · have handed := spells.handed_mem handed
      exact ⟨nested, (List.singleton_sublist.mpr handed).append (.refl _)⟩
    · obtain ⟨nested, earlier⟩ := ih before
      exact ⟨nested, earlier.trans (List.sublist_append_left ..)⟩

theorem returned_made (spells : Spells loaded own standing) {state : Option SetupState}
    (member : .returned call inRuntime nested (.setup (.completed token launch)) state ∈ own) :
    standing.made? = some ⟨token, launch, inRuntime⟩ := by
  induction spells with
  | nil => contradiction
  | snoc spells next ih =>
    rcases List.mem_append.mp member with earlier | last
    · exact next.made_kept (ih earlier)
    · obtain rfl := List.mem_singleton.mp last
      cases next with
      | finish => rfl
      | answer guard other => exact absurd rfl (other token launch)

/-- The command that a launch starts names the token of the setup which has fired it. -/
theorem started_fired (spells : Spells loaded own standing)
    (member : .started launch registry command timeoutUnits ∈ own) :
    ∃ env made delegator since, loaded = some env ∧
      standing = .fired made (.begun delegator) since ∧ made.launch = launch ∧
      command = env.family.startCommand made.token ∧ timeoutUnits = env.settings.timeoutUnits := by
  induction spells with
  | nil => contradiction
  | snoc spells next ih =>
    rcases List.mem_append.mp member with earlier | last
    · obtain ⟨env, made, delegator, since, loaded, rfl, rest⟩ := ih earlier
      cases next <;> exact ⟨env, made, delegator, _, loaded, rfl, rest⟩
    · obtain rfl := List.mem_singleton.mp last
      cases next with
      | start => exact ⟨_, _, _, _, rfl, rfl, rfl, rfl, rfl⟩

/-- Every deed was a step of the course, taken after the deeds before it. -/
theorem split (spells : Spells loaded own standing) :
    ∀ earlier deed later, own = earlier ++ deed :: later →
      ∃ before after, Spells loaded earlier before ∧ Next loaded before deed after := by
  induction spells with
  | nil => simp
  | @snoc own standing last after before next ih =>
    intro earlier deed later equal
    rcases List.eq_nil_or_concat later with rfl | ⟨later, final, rfl⟩
    · obtain ⟨rfl, same⟩ := List.append_inj' equal rfl
      cases same
      exact ⟨standing, after, before, next⟩
    · have regrouped : own ++ [last] = (earlier ++ deed :: later) ++ [final] := by
        simpa using equal
      exact ih earlier deed later (List.append_inj' regrouped rfl).1

/-- A token has been handed over before the command that names it is started, and no other. -/
theorem started_after (spells : Spells (some env) own (.fired made conduct since))
    (split : own = earlier ++ .started launch registry command timeoutUnits :: later) :
    handOvers earlier = [made.token] ∧ .asked (.schedule env.module made.token) ∈ earlier := by
  obtain ⟨before, after, sofar, next⟩ := spells.split _ _ _ split
  cases next with
  | @start _ _ first _ _ _ =>
    have handed := sofar.handOvers_eq
    have all := spells.handOvers_eq
    rw [split, handOvers, List.filterMap_append, ← handOvers, handed] at all
    obtain same : first.token = made.token := (List.cons.inj all).1
    exact ⟨same ▸ handed, same ▸ sofar.handed_mem rfl⟩

end Spells

end Rendezvous.CallStack

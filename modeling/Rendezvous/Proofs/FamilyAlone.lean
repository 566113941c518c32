import Rendezvous.Proofs.AttemptShape
import Rendezvous.Proofs.FamilyTraces

/-! A family by itself. Where the host answers every question by what is asked, a call on an
environment comes to what its guard and its resolver make of it: the same result, the same
guard after it, and the same words to its module as if there were no launches, no other family
and no call from inside a callback. -/
namespace Rendezvous

open Interleaving (isQuestion)

/-- Every question is answered by what is asked, whatever the host remembers. What modules call
back is left open. -/
def Host.Steady (host : Host σ) (answers : (request : Request) → request.Answer) : Prop :=
  ∀ request memory, isQuestion request = true → (host.answer request memory).1 = answers request

/-- The outcome without the number of its launch, which only says how many there were before. -/
def SetupOutcome.unnumbered : SetupOutcome → SetupOutcome
  | .completed token _ => .completed token 0
  | outcome => outcome

def CallResult.unnumbered : CallResult → CallResult
  | .setup outcome => .setup outcome.unnumbered
  | result => result

theorem SetupOutcome.isCompleted_unnumbered (outcome : SetupOutcome) :
    outcome.unnumbered.isCompleted = outcome.isCompleted := by cases outcome <;> rfl

/-- An environment by itself: its guard, and what its module has been handed. -/
structure Solo where
  guard : SetupState
  heard : List Request

/-- A request is made, and the module hears it if it is for the module. -/
def Solo.hand (request : Request) (solo : Solo) : Solo :=
  { solo with heard := solo.heard ++ [Event.asked request].filterMap Event.handed? }

/-- Performs an action where nothing else goes on. -/
def Solo.perform (answers : (request : Request) → request.Answer) :
    (action : Action) → Solo → action.Answer × Solo
  | .guard op, solo => ((solo.guard.apply op).1, { solo with guard := (solo.guard.apply op).2 })
  | .ask request, solo => (answers request, solo.hand request)
  | .launch .., solo => (0, solo)

/-- A call on an environment by itself. -/
def Environment.alone (answers : (request : Request) → request.Answer) (env : Environment)
    (call : Call) : CallResult × Solo :=
  (Interleaving.program env env.state call).run (Solo.perform answers) ⟨env.state, []⟩

namespace Environment

section Performed

variable (perform : (action : Action) → σ → action.Answer × σ) (env : Environment) (s : σ)

theorem conclude_performed (outcome : SetupOutcome) :
    (conclude outcome).run perform s =
      (outcome, (perform (.guard (if outcome.isCompleted then .complete else .abort)) s).2) := rfl

/-- A setup, performed in whatever way. -/
theorem setup_performed :
    env.setup.run perform s =
      let begun := perform (.guard .tryBegin) s
      let ended := env.attempt.run perform begun.2
      if begun.1 then (conclude ended.1).run perform ended.2
      else (.alreadyInitialized, begun.2) := by
  unfold setup
  rw [Program.guard, Program.run_perform]
  by_cases begun : (perform (.guard .tryBegin) s).1 = true
  · simp only [begun, if_true]
    exact Program.run_bind ..
  · simp only [begun]
    rfl

theorem teardown_performed :
    env.teardown.run perform s =
      let closed := perform (.guard .tryTeardown) s
      if closed.1 then (.tornDown, (perform (.ask (.dispose env.module)) closed.2).2)
      else (.notSetUp, closed.2) := by
  unfold teardown
  rw [Program.guard, Program.run_perform]
  by_cases closed : (perform (.guard .tryTeardown) s).1 = true
  · simp only [closed, if_true]
    rfl
  · simp only [closed]
    rfl

end Performed

end Environment

/-- Modules have called on no other family. -/
def StaysWith (family : Family) (events : List Event) : Prop :=
  ∀ other ∈ events.filterMap Event.nested?, other = family

instance (family : Family) (events : List Event) : Decidable (StaysWith family events) :=
  List.decidableBAll (· = family) (events.filterMap Event.nested?)

@[simp] theorem staysWith_append {family : Family} {earlier later : List Event} :
    StaysWith family (earlier ++ later) ↔ StaysWith family earlier ∧ StaysWith family later := by
  simp only [StaysWith, List.filterMap_append, List.mem_append, or_imp, forall_and]

/-- A question or a word to a module is no call from inside a callback. -/
theorem staysWith_asked (family : Family) (request : Request) :
    StaysWith family [.asked request] := by simp [StaysWith, Event.nested?]

/-- What launches do is no call from inside a callback. -/
theorem StaysWith.of_launches (launches : ∀ event ∈ events, event.ofCall = false) :
    StaysWith family events := by
  have none : events.filterMap Event.nested? = [] :=
    List.filterMap_eq_nil_iff.mpr fun event member =>
      Event.nested?_of_launch (launches event member)
  simp [StaysWith, none]

theorem handed_of_launches {events : List Event}
    (launches : ∀ event ∈ events, event.ofCall = false) :
    events.filterMap Event.handed? = [] :=
  List.filterMap_eq_nil_iff.mpr fun event member => Event.handed?_of_launch (launches event member)

/-- The module calls back on this family alone, whenever it is handed a token. -/
def Host.Home (host : Host σ) (family : Family) (module : Handle) : Prop :=
  ∀ token memory, ∀ call ∈ (host.answer (.schedule module token) memory).1, call.1 = family

namespace Session

/-- The session shows of a family's environment what it does by itself: the guard, and, if no
module has called across since the log was `base`, what its module has been handed. A module
that keeps to its family has not. -/
structure Shows (host : Host σ) (family : Family) (env : Environment) (base : List Event)
    (session : Session σ τ) (solo : Solo) : Prop where
  hooks : session.hooks.get family = some { env with state := solo.guard }
  log : ∃ more, session.outside.log = base ++ more ∧
    (StaysWith family more → more.filterMap Event.handed? = solo.heard) ∧
    (host.Home family env.module → StaysWith family more)

theorem Shows.start {host : Host σ} {session : Session σ τ}
    (loaded : session.hooks.get family = some env) :
    Shows host family env session.outside.log session ⟨env.state, []⟩ :=
  ⟨loaded, [], by simp, fun _ => rfl, fun _ => by simp [StaysWith]⟩

section Shown

variable {host : Host σ} {family : Family} {env : Environment} {base : List Event}
  {session : Session σ τ} {solo : Solo}

/-- The environment stays, and its module is handed something more. -/
theorem Shows.grow (shows : Shows host family env base session solo)
    {after : Session σ τ} (hooks : after.hooks.get family = session.hooks.get family)
    (logged : after.outside.log = session.outside.log ++ more)
    (handed : StaysWith family more → more.filterMap Event.handed? = heard)
    (home : host.Home family env.module → StaysWith family more) :
    Shows host family env base after { solo with heard := solo.heard ++ heard } := by
  obtain ⟨earlier, log, told, within⟩ := shows.log
  refine ⟨hooks.trans shows.hooks, earlier ++ more, by rw [logged, log, List.append_assoc],
    fun stays => ?_, fun homely => staysWith_append.mpr ⟨within homely, home homely⟩⟩
  obtain ⟨before, after⟩ := staysWith_append.mp stays
  rw [List.filterMap_append, told before, handed after]

/-- The environment stays, and its module is handed nothing. -/
theorem Shows.stay (shows : Shows host family env base session solo)
    {after : Session σ τ} (hooks : after.hooks.get family = session.hooks.get family)
    (logged : after.outside.log = session.outside.log ++ more)
    (silent : StaysWith family more → more.filterMap Event.handed? = [])
    (home : host.Home family env.module → StaysWith family more) :
    Shows host family env base after solo := by
  simpa using shows.grow hooks logged silent home

theorem Shows.idle (shows : Shows host family env base session solo) {after : Session σ τ}
    (idle : Idle session after) : Shows host family env base after solo := by
  obtain ⟨more, logged, launches⟩ := idle.log
  exact shows.stay (by rw [idle.hooks]) logged (fun _ => handed_of_launches launches)
    fun _ => .of_launches launches

end Shown

/-- One action of a call, once the background has gone on. -/
def actAmid (host : Host σ) (inRuntime : Bool) (background : Session σ τ → Session σ τ)
    (callback : Family → Call → Session σ τ → Session σ τ) (family : Family) (action : Action)
    (session : Session σ τ) : action.Answer × Session σ τ :=
  perform host inRuntime callback family action (background session)

section Actions

variable (host : Host σ) (inRuntime : Bool) {background : Session σ τ → Session σ τ}
  (idle : ∀ session, Idle session (background session)) {family : Family} {env : Environment}
  {base : List Event} {session : Session σ τ} {solo : Solo}

include idle in
/-- On an environment whose setup is under way every call is turned away at once. -/
theorem callWithin_busy (depth : Nat) (loaded : session.hooks.get family = some env)
    (busy : env.state = .inProgress) (call : Call) :
    Idle session (callWithin host inRuntime background depth family call session).2 := by
  have still : ∀ session, (background session).hooks = session.hooks :=
    fun session => (idle session).hooks
  have turned (callback : Family → Call → Session σ τ → Session σ τ) : Idle session
      (callWith host inRuntime background callback family call session).2 := by
    cases call with
    | setup =>
      rw [callWith_setup_late host inRuntime session still callback loaded (by simp [busy])]
      exact idle session
    | teardown =>
      rw [callWith_teardown_early host inRuntime session still callback loaded (by simp [busy])]
      exact idle session
    | state => simpa [callWith, loaded] using .refl session
  cases depth with
  | zero => exact turned _
  | succ depth => exact turned _

theorem reentrant_log (depth : Nat) (other : Family) (call : Call) (session : Session σ τ) :
    (reentrant host inRuntime background depth other call session).outside.log =
      (callWithin host inRuntime background depth other call session).2.outside.log ++
        [.reentrant other call
          (callWithin host inRuntime background depth other call session).1] := rfl

variable {host} (shows : Shows host family env base session solo)

include shows idle

/-- A call from inside the callback of a setup that is under way. On the family itself it comes
to nothing; on another one it is on record as a call across. -/
theorem Shows.reentrant (depth : Nat) (other : Family) (call : Call)
    (busy : solo.guard = .inProgress) (home : host.Home family env.module → other = family) :
    Shows host family env base
      (Session.reentrant host inRuntime background depth other call session) solo := by
  have barred : session.Barred family := by
    intro held found
    obtain rfl := Option.some.inj (shows.hooks.symm.trans found)
    exact busy
  have hooks : (Session.reentrant host inRuntime background depth other call session).hooks.get
      family = session.hooks.get family :=
    reentrant_keeps (fun session => (idle session).hooks) depth other call session family barred
  by_cases own : other = family
  · subst own
    obtain ⟨more, logged, launches⟩ :=
      (callWithin_busy host inRuntime idle depth shows.hooks busy call).log
    refine shows.stay hooks (by rw [reentrant_log, logged, List.append_assoc]) (fun _ => ?_)
      fun _ => staysWith_append.mpr ⟨.of_launches launches, by simp [StaysWith, Event.nested?]⟩
    rw [List.filterMap_append, handed_of_launches launches]
    rfl
  · obtain ⟨more, logged, _⟩ :=
      callWithin_spares host inRuntime idle depth other family call session
    refine shows.stay hooks (by rw [reentrant_log, logged, List.append_assoc]) (fun stays => ?_)
      fun homely => absurd (home homely) own
    exact absurd ((staysWith_append.mp stays).2 other (by simp [Event.nested?])) own

theorem Shows.reenter (depth : Nat) (calls : List (Family × Call))
    (busy : solo.guard = .inProgress)
    (home : host.Home family env.module → ∀ call ∈ calls, call.1 = family) :
    Shows host family env base
      (Session.reenter (Session.reentrant host inRuntime background depth) calls session) solo := by
  induction calls generalizing session with
  | nil => exact shows
  | cons call rest ih =>
    have first := shows.reentrant inRuntime idle depth call.1 call.2 busy
      fun homely => home homely call List.mem_cons_self
    exact ih first fun homely call member => home homely call (List.mem_cons_of_mem _ member)

variable (callback : Family → Call → Session σ τ → Session σ τ)

theorem Shows.guard (op : GuardOp) :
    (actAmid host inRuntime background callback family (.guard op) session).1 =
        (solo.guard.apply op).1 ∧
      Shows host family env base (actAmid host inRuntime background callback family (.guard op)
        session).2 { solo with guard := (solo.guard.apply op).2 } := by
  obtain ⟨hooks, log⟩ := shows.idle (idle session)
  simp only [actAmid, perform, hooks]
  exact ⟨trivial, by simp, log⟩

theorem Shows.ask (request : Request) (plain : ∀ module token, request ≠ .schedule module token) :
    Shows host family env base
      (actAmid host inRuntime background callback family (.ask request) session).2
      (solo.hand request) := by
  rw [actAmid, perform_ask host inRuntime callback family request _ plain]
  refine (shows.idle (idle session)).grow rfl rfl (fun _ => rfl) fun _ => ?_
  exact staysWith_asked family request

theorem Shows.schedule (depth : Nat) (busy : solo.guard = .inProgress) (token : Token) :
    Shows host family env base
      (actAmid host inRuntime background (Session.reentrant host inRuntime background depth)
        family (.ask (.schedule env.module token)) session).2
      (solo.hand (.schedule env.module token)) := by
  have told : Shows host family env base
      ((background session).asked host [.schedule env.module token])
      (solo.hand (.schedule env.module token)) := by
    refine (shows.idle (idle session)).grow rfl rfl (fun _ => rfl) fun _ => ?_
    exact staysWith_asked family (.schedule env.module token)
  rw [actAmid, perform_schedule]
  exact told.reenter inRuntime idle depth _ busy fun home => home token _

theorem Shows.launch (launcher : Launcher) (registry : Option Handle) (token : Token) :
    Shows host family env base (actAmid host inRuntime background callback family
      (.launch launcher registry token) session).2 solo := by
  obtain ⟨hooks, log⟩ := shows.idle (idle session)
  exact ⟨hooks, log⟩

end Actions

section Runs

variable {host : Host σ} {answers : (request : Request) → request.Answer}
  (steady : host.Steady answers) (inRuntime : Bool) {background : Session σ τ → Session σ τ}
  (idle : ∀ session, Idle session (background session)) {family : Family} {env : Environment}
  {base : List Event} {session : Session σ τ} {solo : Solo}

include steady in
/-- A question is answered as it is where nothing else goes on. -/
theorem actAmid_question (callback : Family → Call → Session σ τ → Session σ τ)
    {request : Request} (question : isQuestion request = true)
    (plain : ∀ module token, request ≠ .schedule module token) :
    (actAmid host inRuntime background callback family (.ask request) session).1 =
      answers request := by
  rw [actAmid, perform_ask host inRuntime callback family request _ plain]
  exact steady request _ question

include steady idle in
/-- What is left of an attempt under way ends as it does by itself. -/
theorem Shows.attempt (depth : Nat) {program : Program SetupOutcome}
    (connects : Environment.Connects env program)
    (shows : Shows host family env base session solo) (busy : solo.guard = .inProgress) :
    let ran := program.run (actAmid host inRuntime background
      (Session.reentrant host inRuntime background depth) family) session
    let alone := program.run (Solo.perform answers) solo
    ran.1.unnumbered = alone.1.unnumbered ∧ Shows host family env base ran.2 alone.2 := by
  induction connects generalizing session solo with
  | giveUp => exact ⟨rfl, shows⟩
  | @ask request next question rest ih =>
    have plain : ∀ module token, request ≠ .schedule module token := by
      rintro module token rfl
      contradiction
    simp only [Program.run_act]
    rw [actAmid_question steady inRuntime _ question plain]
    exact ih (answers request) (shows.ask inRuntime idle _ request plain) busy
  | handOver token =>
    have handed := shows.schedule inRuntime idle depth busy token
    exact ⟨rfl, handed.launch inRuntime idle (Session.reentrant host inRuntime background depth)
      env.launcher env.resolver.registry token⟩

include idle in
/-- The attempt is over, and the guard is settled. -/
theorem Shows.conclude (callback : Family → Call → Session σ τ → Session σ τ)
    (shows : Shows host family env base session solo) {outcome outcome' : SetupOutcome}
    (same : outcome.unnumbered = outcome'.unnumbered) :
    let ran := (Environment.conclude outcome).run
      (actAmid host inRuntime background callback family) session
    let alone := (Environment.conclude outcome').run (Solo.perform answers) solo
    ran.1.unnumbered = alone.1.unnumbered ∧ Shows host family env base ran.2 alone.2 := by
  have settled : outcome.isCompleted = outcome'.isCompleted := by
    rw [← outcome.isCompleted_unnumbered, same, outcome'.isCompleted_unnumbered]
  simp only [Environment.conclude_performed]
  rw [settled]
  exact ⟨same, (shows.guard inRuntime idle callback _).2⟩

include steady idle in
theorem Shows.setup (depth : Nat) (shows : Shows host family env base session solo) :
    let ran := env.setup.run (actAmid host inRuntime background
      (Session.reentrant host inRuntime background depth) family) session
    let alone := env.setup.run (Solo.perform answers) solo
    ran.1.unnumbered = alone.1.unnumbered ∧ Shows host family env base ran.2 alone.2 := by
  obtain ⟨answer, begun⟩ := shows.guard inRuntime idle
    (Session.reentrant host inRuntime background depth) .tryBegin
  simp only [Environment.setup_performed, answer]
  by_cases fresh : solo.guard = .notStarted
  · have taken : solo.guard.apply .tryBegin = (true, .inProgress) := by
      rw [fresh]
      rfl
    simp only [Solo.perform, taken, if_true] at begun ⊢
    obtain ⟨same, ended⟩ := begun.attempt steady inRuntime idle depth env.attempt_connects rfl
    exact ended.conclude inRuntime idle _ same
  · have late : solo.guard.apply .tryBegin = (false, solo.guard) := if_neg fresh
    simp only [Solo.perform, late] at begun ⊢
    exact ⟨rfl, begun⟩

include idle in
theorem Shows.teardown (callback : Family → Call → Session σ τ → Session σ τ)
    (shows : Shows host family env base session solo) :
    let ran := env.teardown.run (actAmid host inRuntime background callback family) session
    let alone := env.teardown.run (Solo.perform answers) solo
    ran.1 = alone.1 ∧ Shows host family env base ran.2 alone.2 := by
  obtain ⟨answer, closed⟩ := shows.guard inRuntime idle callback .tryTeardown
  simp only [Environment.teardown_performed, answer]
  by_cases done : (solo.guard.apply .tryTeardown).1 = true
  · simp only [Solo.perform, done, if_true]
    exact ⟨trivial, closed.ask inRuntime idle callback (.dispose env.module) (by simp)⟩
  · simp only [Solo.perform, done]
    exact ⟨rfl, closed⟩

/-- A call on a loaded environment is the run of its program. -/
theorem callWith_loaded (callback : Family → Call → Session σ τ → Session σ τ)
    (loaded : session.hooks.get family = some env) (call : Call) :
    callWith host inRuntime background callback family call session =
      (Interleaving.program env env.state call).run
        (actAmid host inRuntime background callback family) session := by
  cases call <;> simp only [callWith, loaded, Interleaving.program, Program.run_bind] <;> rfl

include steady idle

/-- A call comes to what it comes to by itself. -/
theorem callWithin_shows (depth : Nat) (loaded : session.hooks.get family = some env)
    (call : Call) :
    let ran := callWithin host inRuntime background (depth + 1) family call session
    let alone := env.alone answers call
    ran.1.unnumbered = alone.1.unnumbered ∧
      Shows host family env session.outside.log ran.2 alone.2 := by
  rw [callWithin_succ, callWith_loaded inRuntime _ loaded]
  have start : Shows host family env session.outside.log session ⟨env.state, []⟩ := .start loaded
  cases call with
  | setup =>
    obtain ⟨same, shown⟩ := start.setup steady inRuntime idle depth
    simp only [Environment.alone, Interleaving.program, Program.run_bind]
    exact ⟨congrArg CallResult.setup same, shown⟩
  | teardown =>
    obtain ⟨same, shown⟩ :=
      start.teardown inRuntime idle (Session.reentrant host inRuntime background depth)
    simp only [Environment.alone, Interleaving.program, Program.run_bind]
    exact ⟨congrArg (fun outcome => (CallResult.teardown outcome).unnumbered) same, shown⟩
  | state => exact ⟨rfl, start⟩

theorem callAmid_shows (loaded : session.hooks.get family = some env) (call : Call) :
    let ran := session.callAmid host inRuntime background family call
    let alone := env.alone answers call
    ran.1.unnumbered = alone.1.unnumbered ∧
      Shows host family env session.outside.log ran.2 alone.2 :=
  callWithin_shows steady inRuntime idle 1 loaded call

end Runs

end Session
end Rendezvous

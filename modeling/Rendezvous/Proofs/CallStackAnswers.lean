import Rendezvous.Proofs.CallStackTermination
import Rendezvous.Proofs.NestingDepth

/-! Steps and runs agree. What the frames of a stack have still to do is a run each, the inner
before the outer; a step of the machine takes one action off and changes nothing else. A call
that is stepped through to its end therefore returns and leaves behind what the session's own
call does. -/
namespace Rendezvous.CallStack

open Interleaving (program)

/-- The next thing that the frame does is an action. -/
def Frame.acts (frame : Frame) : Bool :=
  match frame.pending, frame.rest with
  | [], .act .. => true
  | _, _ => false

/-- The launches that go on before the next step: those that `pace` picks, if it is an
action. -/
def breath (pace : Session σ τ → List LaunchId) (m : Machine σ τ) : List (Aside σ) :=
  match m.stack with
  | [] => []
  | frame :: _ => if frame.acts then (pace m.session).map .progress else []

/-- One step at a pace. -/
def tick (host : Host σ) (executor : Executor τ) (pace : Session σ τ → List LaunchId)
    (m : Machine σ τ) : Machine σ τ :=
  (asides host executor (breath pace m) m).advance host

def ticks (host : Host σ) (executor : Executor τ) (pace : Session σ τ → List LaunchId) :
    Nat → Machine σ τ → Machine σ τ
  | 0, m => m
  | n + 1, m => ticks host executor pace n (tick host executor pace m)

theorem Inevitable.ticks {goal : Machine σ τ → Prop}
    (inevitable : Inevitable host executor goal m) (pace : Session σ τ → List LaunchId) :
    ∃ n, goal (ticks host executor pace n m) := by
  induction inevitable with
  | now there => exact ⟨0, there⟩
  | @later m _ ih =>
    obtain ⟨n, there⟩ := ih (breath pace m)
    exact ⟨n + 1, there⟩

/-- What goes on at a pace before an action. -/
def goingOn (host : Host σ) (executor : Executor τ) (pace : Session σ τ → List LaunchId)
    (session : Session σ τ) : Session σ τ :=
  Decoupling.progressAll host executor (pace session) session

theorem goingOn_hooks (host : Host σ) (executor : Executor τ)
    (pace : Session σ τ → List LaunchId) (session : Session σ τ) :
    (goingOn host executor pace session).hooks = session.hooks :=
  (Decoupling.progressAll_background ..).hooks

theorem progress_session (host : Host σ) (executor : Executor τ) (launch : LaunchId)
    (m : Machine σ τ) : (m.progress host executor launch).session =
      Decoupling.progress host executor launch m.session := by
  unfold Machine.progress
  cases found : m.session.launches[launch]? with
  | none => simp [Decoupling.progress, found]
  | some fired => rfl

theorem asides_session (host : Host σ) (executor : Executor τ) (launches : List LaunchId)
    (m : Machine σ τ) : (asides host executor (launches.map .progress) m).session =
      Decoupling.progressAll host executor launches m.session := by
  induction launches generalizing m with
  | nil => rfl
  | cons launch rest ih =>
    have first := progress_session host executor launch m
    have others := ih (m.progress host executor launch)
    rw [first] at others
    exact others

/-- The result of a call that came from the outside. -/
def Entry.answer? : Entry → Option CallResult
  | ⟨_, .returned _ _ false result _⟩ => some result
  | _ => none

/-- What the calls from the outside have returned. -/
def answers (journal : List Entry) : List CallResult := journal.filterMap Entry.answer?

theorem answers_append (earlier later : List Entry) :
    answers (earlier ++ later) = answers earlier ++ answers later := List.filterMap_append

theorem asides_answers (host : Host σ) (executor : Executor τ) (events : List (Aside σ))
    (m : Machine σ τ) : answers (asides host executor events m).journal = answers m.journal := by
  obtain ⟨more, told, launches⟩ := (asides_beside host executor events m).journal
  have silent : answers more = [] := by
    refine List.filterMap_eq_nil_iff.mpr fun entry member => ?_
    have launch := launches entry member
    obtain ⟨family, deed⟩ := entry
    cases deed <;> first | rfl | contradiction
  rw [told, answers_append, silent, List.append_nil]

section Outcome

variable (host : Host σ) (background : Session σ τ → Session σ τ)

/-- A module's call, as the session makes it, and put on record. -/
def reentry (inRuntime : Bool) (family : Family) (call : Call) (session : Session σ τ) :
    Session σ τ :=
  let (result, session) := session.callAmid host inRuntime background family call
  { session with outside := session.outside.record (.reentrant family call result) }

/-- The rest of a frame, run to its end. -/
def resume (frame : Frame) (session : Session σ τ) : CallResult × Session σ τ :=
  frame.rest.run
    (fun action session => (background session).perform host frame.inRuntime
      (reentry host background frame.inRuntime) frame.family action)
    (session.reenter (reentry host background frame.inRuntime) frame.pending)

/-- What the calls below a frame come to, once the frame has returned. -/
def settle : List Frame → Frame → CallResult × Session σ τ → CallResult × Session σ τ
  | [], _, answer => answer
  | next :: below, frame, (result, session) =>
    settle below next (resume host background next
      { session with
        outside := session.outside.record (.reentrant frame.family frame.call result) })

/-- What the calls under way come to. -/
def unwind (frame : Frame) (below : List Frame) (session : Session σ τ) :
    CallResult × Session σ τ :=
  settle host background below frame (resume host background frame session)

theorem settle_congr {frame now : Frame} (family : now.family = frame.family)
    (call : now.call = frame.call) (below : List Frame) (answer : CallResult × Session σ τ) :
    settle host background below now answer = settle host background below frame answer := by
  cases below with
  | nil => rfl
  | cons next below => simp only [settle, family, call]

/-- A module's calls come after the action that they belong to. -/
theorem perform_callbacks (inRuntime : Bool)
    (callback : Family → Call → Session σ τ → Session σ τ) (family : Family) (action : Action)
    (session : Session σ τ) :
    session.perform host inRuntime callback family action =
      let (answer, session) := session.perform host inRuntime (fun _ _ session => session) family
        action
      (answer, session.reenter callback (callbacks action answer)) := by
  cases action with
  | guard op => rfl
  | launch => rfl
  | ask request =>
    rw [perform_ask_alone]
    cases request with
    | schedule module token => rfl
    | _ => rfl

variable {background} (still : ∀ session, (background session).hooks = session.hooks)

include still

/-- A frame that arrives is a call of the session. -/
theorem resume_arrive (inRuntime : Bool) (family : Family) (call : Call)
    (session : Session σ τ) :
    resume host background (.arrive session inRuntime family call) session =
      session.callAmid host inRuntime background family call := by
  rw [Session.callAmid_eq host inRuntime still]
  unfold Session.callWith
  simp only [resume, Frame.arrive]
  cases session.hooks.get family with
  | none => rfl
  | some env =>
    cases call with
    | setup => exact Program.run_bind ..
    | teardown => exact Program.run_bind ..
    | state => rfl

end Outcome

/-- The call that came from the outside. -/
def outermost : Frame → List Frame → Frame
  | frame, [] => frame
  | _, next :: below => outermost next below

/-- What is under way on behalf of a call comes to this answer. -/
structure Owes (host : Host σ) (background : Session σ τ → Session σ τ) (inRuntime : Bool)
    (family : Family) (call : Call) (answer : CallResult × Session σ τ) (frame : Frame)
    (below : List Frame) (session : Session σ τ) : Prop where
  comes : unwind host background frame below session = answer
  inRuntime : (outermost frame below).inRuntime = inRuntime
  family : (outermost frame below).family = family
  call : (outermost frame below).call = call

/-- What a call owes is still under way, and nothing has been answered. -/
def Pends (host : Host σ) (background : Session σ τ → Session σ τ) (inRuntime : Bool)
    (family : Family) (call : Call) (answer : CallResult × Session σ τ)
    (before after : Machine σ τ) : Prop :=
  ∃ frame below, after.stack = frame :: below ∧
    Owes host background inRuntime family call answer frame below after.session ∧
    answers after.journal = answers before.journal

/-- A call from the outside has returned its answer. -/
structure Answered (inRuntime : Bool) (family : Family) (call : Call)
    (answer : CallResult × Session σ τ) (before after : Machine σ τ) : Prop where
  quiet : after.stack = []
  session : after.session = answer.2
  told : ∃ earlier guard, answers earlier = answers before.journal ∧
    after.journal = earlier ++ [⟨family, .returned call inRuntime false answer.1 guard⟩]

section Ticks

variable (host : Host σ) (executor : Executor τ) (pace : Session σ τ → List LaunchId)
  {m : Machine σ τ} {frame now : Frame} {below : List Frame} {inRuntime : Bool}
  {family : Family} {call : Call} {answer : CallResult × Session σ τ}

/-- A frame that goes on still owes the same, if it comes to the same. -/
theorem Owes.go {host : Host σ} {background : Session σ τ → Session σ τ}
    {before after : Session σ τ}
    (owes : Owes host background inRuntime family call answer frame below before)
    (same : now.inRuntime = frame.inRuntime ∧ now.family = frame.family ∧ now.call = frame.call)
    (comes : resume host background now after = resume host background frame before) :
    Owes host background inRuntime family call answer now below after := by
  obtain ⟨runtime, sameFamily, sameCall⟩ := same
  refine ⟨?_, ?_, ?_, ?_⟩
  · rw [unwind, comes, settle_congr host background sameFamily sameCall]
    exact owes.comes
  · cases below with
    | nil => exact runtime.trans owes.inRuntime
    | cons => exact owes.inRuntime
  · cases below with
    | nil => exact sameFamily.trans owes.family
    | cons => exact owes.family
  · cases below with
    | nil => exact sameCall.trans owes.call
    | cons => exact owes.call

theorem tick_still (stacked : m.stack = frame :: below) (idle : frame.acts = false) :
    tick host executor pace m = m.advance host := by
  simp [tick, breath, stacked, idle, asides]

theorem tick_acting (stacked : m.stack = frame :: below) (finished : frame.pending = [])
    {action : Action} {next : action.Answer → Program CallResult}
    (rest : frame.rest = .act action next) :
    ∃ journal, answers journal = answers m.journal ∧ tick host executor pace m =
      ({ m with session := goingOn host executor pace m.session, journal } : Machine σ τ).act host
        frame below action next := by
  have acts : frame.acts = true := by simp [Frame.acts, finished, rest]
  have going : breath pace m = (pace m.session).map .progress := by simp [breath, stacked, acts]
  have session := asides_session host executor (pace m.session) m
  have stack := (asides_beside host executor ((pace m.session).map .progress) m).stack
  rw [tick, going, advance_act (stack.trans stacked) finished rest]
  refine ⟨(asides host executor ((pace m.session).map .progress) m).journal,
    asides_answers host executor _ m, ?_⟩
  rw [goingOn, ← session]
  rfl

section Owing

variable (stacked : m.stack = frame :: below)
  (owes : Owes host (goingOn host executor pace) inRuntime family call answer frame below
    m.session)

include stacked owes

/-- A call of the module's arrives. -/
theorem tick_calls (pending : frame.pending = (target, nested) :: rest) :
    Pends host (goingOn host executor pace) inRuntime family call answer m
      (tick host executor pace m) := by
  have idle : frame.acts = false := by simp [Frame.acts, pending]
  rw [tick_still host executor pace stacked idle, advance_call stacked pending]
  have owed : Owes host (goingOn host executor pace) inRuntime family call answer
      { frame with pending := rest } below
      (reentry host (goingOn host executor pace) frame.inRuntime target nested m.session) := by
    refine owes.go ⟨rfl, rfl, rfl⟩ ?_
    simp only [resume, pending]
    rfl
  refine ⟨_, _, rfl, ⟨?_, owed.inRuntime, owed.family, owed.call⟩, rfl⟩
  have arrived := resume_arrive host (goingOn_hooks host executor pace) frame.inRuntime target
    nested m.session
  rw [unwind, arrived]
  exact owed.comes

theorem tick_finishes (pending : frame.pending = []) (rest : frame.rest = .finish result) :
    Pends host (goingOn host executor pace) inRuntime family call answer m
      (tick host executor pace m) ∨
    Answered inRuntime family call answer m (tick host executor pace m) := by
  have idle : frame.acts = false := by simp [Frame.acts, pending, rest]
  rw [tick_still host executor pace stacked idle, advance_finish stacked pending rest]
  have finished : resume host (goingOn host executor pace) frame m.session =
      (result, m.session) := by simp [resume, pending, rest, Session.reenter]
  have comes := owes.comes
  rw [unwind, finished] at comes
  cases below with
  | nil =>
    obtain rfl : (result, m.session) = answer := comes
    have known : frame.family = family ∧ frame.call = call ∧ frame.inRuntime = inRuntime :=
      ⟨owes.family, owes.call, owes.inRuntime⟩
    obtain ⟨rfl, rfl, rfl⟩ := known
    exact .inr ⟨rfl, rfl, m.journal, _, rfl, rfl⟩
  | cons next below =>
    refine .inl ⟨next, below, rfl, ⟨comes, owes.inRuntime, owes.family, owes.call⟩, ?_⟩
    exact (answers_append ..).trans (List.append_nil _)

theorem tick_acts (pending : frame.pending = []) {action : Action}
    {next : action.Answer → Program CallResult} (rest : frame.rest = .act action next) :
    Pends host (goingOn host executor pace) inRuntime family call answer m
      (tick host executor pace m) := by
  obtain ⟨journal, same, acted⟩ := tick_acting host executor pace stacked pending rest
  rw [acted]
  refine ⟨_, _, rfl, owes.go ⟨rfl, rfl, rfl⟩ ?_, ?_⟩
  · have performed := perform_callbacks host frame.inRuntime
      (reentry host (goingOn host executor pace) frame.inRuntime) frame.family action
      (goingOn host executor pace m.session)
    simp only [resume, pending, rest, Session.reenter, List.foldl_nil, Program.run_act, performed]
    rfl
  · rw [← same]
    refine (answers_append ..).trans ?_
    cases action <;> exact List.append_nil _

/-- One step takes one action off what a call owes. -/
theorem tick_owes :
    Pends host (goingOn host executor pace) inRuntime family call answer m
      (tick host executor pace m) ∨
    Answered inRuntime family call answer m (tick host executor pace m) := by
  cases pending : frame.pending with
  | cons called rest => exact .inl (tick_calls host executor pace stacked owes pending)
  | nil =>
    cases rest : frame.rest with
    | finish result => exact tick_finishes host executor pace stacked owes pending rest
    | act action next => exact .inl (tick_acts host executor pace stacked owes pending rest)

end Owing

theorem ticks_quiet (quiet : m.stack = []) (n : Nat) : ticks host executor pace n m = m := by
  induction n with
  | zero => rfl
  | succ n ih =>
    have still : tick host executor pace m = m := by
      simp [tick, breath, quiet, asides, advance_quiet]
    rw [ticks, still, ih]

theorem ticks_owed (n : Nat) (stacked : m.stack = frame :: below)
    (owes : Owes host (goingOn host executor pace) inRuntime family call answer frame below
      m.session)
    (quiet : (ticks host executor pace n m).stack = []) :
    Answered inRuntime family call answer m (ticks host executor pace n m) := by
  induction n generalizing m frame below with
  | zero =>
    rw [ticks, stacked] at quiet
    contradiction
  | succ n ih =>
    rw [ticks] at quiet ⊢
    rcases tick_owes host executor pace stacked owes with
      ⟨now, rest, stacked, owes, same⟩ | answered
    · obtain ⟨quiet, session, told⟩ := ih stacked owes quiet
      exact ⟨quiet, session, same ▸ told⟩
    · rwa [ticks_quiet host executor pace answered.quiet]

/-- A call that is stepped through, at whatever pace launches go on meanwhile, comes to its end,
and returns and leaves behind what the session's own call does. -/
theorem enter_answers {hooks : Hooks} (fresh : hooks.Fresh) (sound : Sound hooks m)
    (quiet : m.stack = []) (inRuntime : Bool) (family : Family) (call : Call) :
    ∃ n, Answered inRuntime family call
      (m.session.callAmid host inRuntime (goingOn host executor pace) family call) m
      (ticks host executor pace n (m.enter inRuntime family call)) := by
  obtain ⟨standings, coherent⟩ := sound
  have entered : m.enter inRuntime family call =
      { m with stack := [.arrive m.session inRuntime family call] } := by
    simp [Machine.enter, quiet]
  have ends := quiet_inevitable fresh host executor
    ⟨standings, coherent.enter inRuntime family call⟩
  rw [entered] at ends ⊢
  obtain ⟨n, quiet, _⟩ := ends.ticks pace
  have owes : Owes host (goingOn host executor pace) inRuntime family call
      (m.session.callAmid host inRuntime (goingOn host executor pace) family call)
      (.arrive m.session inRuntime family call) [] m.session :=
    ⟨resume_arrive host (goingOn_hooks host executor pace) .., rfl, rfl, rfl⟩
  obtain ⟨quiet, session, told⟩ := ticks_owed host executor pace
    (m := { m with stack := [.arrive m.session inRuntime family call] }) n rfl owes quiet
  exact ⟨n, quiet, session, told⟩

end Ticks

end Rendezvous.CallStack

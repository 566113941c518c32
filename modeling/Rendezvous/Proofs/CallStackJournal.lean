import Mathlib.Data.List.Basic
import Rendezvous.Proofs.CallStack

/-! The journal of a call stack and the log of its session. What each kind of step adds to
either is said once, here; without the families the journal is the log. -/
namespace Rendezvous.CallStack

@[simp] theorem deeds_nil (family : Family) : deeds family [] = [] := rfl

@[simp] theorem deeds_append (family : Family) (earlier later : List Entry) :
    deeds family (earlier ++ later) = deeds family earlier ++ deeds family later := by
  simp [deeds]

@[simp] theorem deeds_cons (family : Family) (entry : Entry) (later : List Entry) :
    deeds family (entry :: later) =
      if entry.family = family then entry.deed :: deeds family later else deeds family later := by
  by_cases own : entry.family = family <;> simp [deeds, own]

theorem deeds_own (family : Family) (own : List Deed) :
    deeds family (own.map (⟨family, ·⟩)) = own := by
  induction own with
  | nil => rfl
  | cons deed rest ih => simp [ih]

theorem deeds_others {family other : Family} (apart : other ≠ family) (own : List Deed) :
    deeds other (own.map (⟨family, ·⟩)) = [] := by
  induction own with
  | nil => rfl
  | cons deed rest ih => simp [ih, apart.symm]

theorem mem_deeds {family : Family} {journal : List Entry} {deed : Deed} :
    deed ∈ deeds family journal ↔ ⟨family, deed⟩ ∈ journal := by
  induction journal with
  | nil => simp
  | cons entry rest ih =>
    obtain ⟨owner, first⟩ := entry
    by_cases own : owner = family
    · subst own
      simp [ih]
    · simp [own, ih, Ne.symm own]

/-- How far a launch gets that is offered this, and what it leaves in the log. -/
inductive Advanced (offer : Option Delegator) (launch : Launch) :
    LaunchStage → List Event → Prop where
  | rest (ended : launch.stage = .ended exit) : Advanced offer launch (.ended exit) []
  | wait (running : launch.stage = .running ticket) : Advanced offer launch (.running ticket) []
  | finish (running : launch.stage = .running ticket) (exit : Exit) :
      Advanced offer launch (.ended exit) [.ended launch.registry]
  | skip (created : launch.stage = .created) (silent : offer = none) :
      Advanced offer launch (.ended (.outcome .skipped)) [.asked (.delegator launch.registry)]
  | start (created : launch.stage = .created) (offered : offer = some delegator) (ticket : Nat) :
      Advanced offer launch (.running ticket) [.asked (.delegator launch.registry),
        .started launch.registry launch.command launch.launcher.timeoutUnits]
  | rush (created : launch.stage = .created) (offered : offer = some delegator) (exit : Exit) :
      Advanced offer launch (.ended exit) [.asked (.delegator launch.registry),
        .started launch.registry launch.command launch.launcher.timeoutUnits,
        .ended launch.registry]

theorem poll_cases (executor : Executor τ) (launch : Launch) (ticket : Nat)
    (outside : Outside σ τ) :
    ∃ stage events, (launch.poll executor ticket outside).1 = { launch with stage } ∧
      (launch.poll executor ticket outside).2.log = outside.log ++ events ∧
      ((stage = .running ticket ∧ events = []) ∨
        ∃ exit, stage = .ended exit ∧ events = [.ended launch.registry]) := by
  unfold Launch.poll
  split
  · exact ⟨_, [], rfl, by simp, .inl ⟨rfl, rfl⟩⟩
  · exact ⟨_, _, rfl, rfl, .inr ⟨_, rfl, rfl⟩⟩

theorem advance_cases (host : Host σ) (executor : Executor τ) (launch : Launch)
    (outside : Outside σ τ) :
    ∃ stage events, (launch.advance host executor outside).1 = { launch with stage } ∧
      (launch.advance host executor outside).2.log = outside.log ++ events ∧
      Advanced (host.reply outside.memory [] (.delegator launch.registry)) launch stage events := by
  unfold Launch.advance
  split
  · rename_i exit ended
    exact ⟨.ended exit, [], by rw [← ended], by simp, .rest ended⟩
  · rename_i ticket running
    obtain ⟨stage, events, after, log, ⟨rfl, rfl⟩ | ⟨exit, rfl, rfl⟩⟩ :=
      poll_cases executor launch ticket outside
    · exact ⟨_, _, after, log, .wait running⟩
    · exact ⟨_, _, after, log, .finish running exit⟩
  · rename_i created
    split
    · rename_i answered
      obtain ⟨silent, rfl⟩ := Prod.mk.inj answered
      exact ⟨_, _, rfl, rfl, .skip created silent⟩
    · rename_i delegator _ answered
      obtain ⟨offered, rfl⟩ := Prod.mk.inj answered
      simp only
      obtain ⟨stage, events, after, log, ⟨rfl, rfl⟩ | ⟨exit, rfl, rfl⟩⟩ :=
        poll_cases executor launch _ _
      · refine ⟨_, _, after, ?_, .start created offered _⟩
        simpa using log
      · refine ⟨_, _, after, ?_, .rush created offered exit⟩
        simpa using log

/-- What an event of a launch puts down is the event. -/
theorem Advanced.events {events : List Event} (advanced : Advanced offer fired stage events)
    (launch : LaunchId) (family : Family) :
    ((events.filterMap (Deed.ofLaunch launch offer)).map (Entry.mk family)).filterMap
      Entry.event? = events := by
  cases advanced <;> rfl

theorem ofLaunch_ofCall (told : Deed.ofLaunch launch offer event = some deed) :
    deed.ofCall = false := by
  unfold Deed.ofLaunch at told
  split at told
  all_goals first
    | contradiction
    | (obtain rfl := Option.some.inj told; rfl)

section Steps

variable {host : Host σ} {m : Machine σ τ} {frame : Frame} {below : List Frame}

theorem advance_quiet (quiet : m.stack = []) : m.advance host = m := by
  simp [Machine.advance, quiet]

theorem advance_call (stacked : m.stack = frame :: below)
    (pending : frame.pending = (family, call) :: rest) :
    m.advance host =
      { m with
        stack := .arrive m.session frame.inRuntime family call ::
          { frame with pending := rest } :: below } := by
  simp [Machine.advance, stacked, pending]

theorem advance_finish (stacked : m.stack = frame :: below) (finished : frame.pending = [])
    (result : frame.rest = .finish answer) : m.advance host = m.leave frame below answer := by
  simp [Machine.advance, stacked, finished, result]

theorem advance_act (stacked : m.stack = frame :: below) (finished : frame.pending = [])
    {action : Action} {next : action.Answer → Program CallResult}
    (rest : frame.rest = .act action next) :
    m.advance host = m.act host frame below action next := by
  simp [Machine.advance, stacked, finished, rest]

/-- While nobody calls back, every request is just asked. -/
theorem perform_ask_alone (host : Host σ) (inRuntime : Bool) (family : Family)
    (request : Request) (session : Session σ τ) :
    session.perform host inRuntime (fun _ _ session => session) family (.ask request) =
      (host.reply session.outside.memory [] request, session.asked host [request]) := by
  cases request with
  | schedule module token => rw [Session.perform_schedule, Session.reenter, List.foldl_fixed]
  | _ => rfl

theorem act_ask (request : Request) (next : request.Answer → Program CallResult) :
    m.act host frame below (.ask request) next =
      { session := m.session.asked host [request]
        stack :=
          { frame with
            pending := callbacks (.ask request) (host.reply m.session.outside.memory [] request)
            rest := next (host.reply m.session.outside.memory [] request) } :: below
        journal := m.journal ++ [⟨frame.family, .asked request⟩] } := by
  simp [Machine.act, perform_ask_alone, Deed.ofAction, begins]

theorem act_guard {op : GuardOp} {next : Bool → Program CallResult}
    (loaded : m.session.hooks.get frame.family = some env) :
    m.act host frame below (.guard op) next =
      { session :=
          { m.session with
            hooks := m.session.hooks.set frame.family
              (some { env with state := (env.state.apply op).2 }) }
        stack :=
          { frame with
            begun := frame.begun || begins (.guard op) (env.state.apply op).1
            pending := []
            rest := next (env.state.apply op).1 } :: below
        journal := m.journal ++ [⟨frame.family, .guard op (env.state.apply op).1⟩] } := by
  simp [Machine.act, Session.perform, loaded, Deed.ofAction, callbacks]

theorem act_launch {next : LaunchId → Program CallResult} :
    m.act host frame below (.launch launcher registry token) next =
      { session :=
          { m.session with
            launches := m.session.launches ++ [.fire frame.inRuntime launcher registry token] }
        stack :=
          { frame with pending := [], rest := next m.session.launches.length } :: below
        journal := m.journal ++ [⟨frame.family, .fired m.session.launches.length⟩] } := by
  simp [Machine.act, Session.perform, Deed.ofAction, callbacks, begins]

theorem progress_absent (executor : Executor τ) (absent : m.session.launches[launch]? = none) :
    m.progress host executor launch = m := by
  simp [Machine.progress, absent]

theorem progress_cases (host : Host σ) (executor : Executor τ)
    (found : m.session.launches[launch]? = some fired) :
    ∃ stage events outside,
      m.progress host executor launch =
        { m with
          session :=
            { m.session with
              launches := m.session.launches.set launch { fired with stage }
              outside }
          journal := m.journal ++ (events.filterMap (Deed.ofLaunch launch
            (host.reply m.session.outside.memory [] (.delegator fired.registry)))).map
              (⟨fired.launcher.family, ·⟩) } ∧
      outside.log = m.session.outside.log ++ events ∧
      Advanced (host.reply m.session.outside.memory [] (.delegator fired.registry)) fired stage
        events := by
  obtain ⟨stage, events, after, log, advanced⟩ :=
    advance_cases host executor fired m.session.outside
  refine ⟨stage, events, _, ?_, log, advanced⟩
  simp only [Machine.progress, found, Decoupling.progress, after, log, List.drop_left]

end Steps

/-- What goes on between two steps: the calls under way and the environments stay as they are,
and the journal tells of launches only. -/
structure Beside (before after : Machine σ τ) : Prop where
  stack : after.stack = before.stack
  hooks : after.session.hooks = before.session.hooks
  journal : ∃ more, after.journal = before.journal ++ more ∧
    ∀ entry ∈ more, entry.deed.ofCall = false

theorem Beside.refl (m : Machine σ τ) : Beside m m := ⟨rfl, rfl, [], by simp, by simp⟩

theorem Beside.trans {first second third : Machine σ τ} (one : Beside first second)
    (two : Beside second third) : Beside first third := by
  obtain ⟨earlier, told, launches⟩ := one.journal
  obtain ⟨later, toldLater, launchesLater⟩ := two.journal
  refine ⟨two.stack.trans one.stack, two.hooks.trans one.hooks, earlier ++ later, ?_, ?_⟩
  · rw [toldLater, told, List.append_assoc]
  · intro entry member
    exact (List.mem_append.mp member).elim (launches entry) (launchesLater entry)

theorem progress_beside (host : Host σ) (executor : Executor τ) (launch : LaunchId)
    (m : Machine σ τ) : Beside m (m.progress host executor launch) := by
  cases found : m.session.launches[launch]? with
  | none =>
    rw [progress_absent executor found]
    exact .refl m
  | some fired =>
    obtain ⟨stage, events, outside, moved, _⟩ := progress_cases host executor found
    rw [moved]
    refine ⟨rfl, rfl, _, rfl, ?_⟩
    intro entry member
    obtain ⟨deed, told, rfl⟩ := List.mem_map.mp member
    obtain ⟨event, _, told⟩ := List.mem_filterMap.mp told
    exact ofLaunch_ofCall told

theorem asides_beside (host : Host σ) (executor : Executor τ) (events : List (Aside σ))
    (m : Machine σ τ) : Beside m (asides host executor events m) := by
  induction events generalizing m with
  | nil => exact .refl m
  | cons event events ih =>
    refine Beside.trans ?_ (ih _)
    cases event with
    | progress launch => exact progress_beside host executor launch m
    | change => exact ⟨rfl, rfl, [], (List.append_nil _).symm, by simp⟩
    | hold => exact ⟨rfl, rfl, [], (List.append_nil _).symm, by simp⟩

/-- The journal, without the families, is the log. -/
def Recorded (m : Machine σ τ) : Prop :=
  m.journal.filterMap Entry.event? = m.session.outside.log

theorem act_recorded (host : Host σ) (frame : Frame) (below : List Frame) (action : Action)
    (next : action.Answer → Program CallResult) {m : Machine σ τ} (recorded : Recorded m) :
    Recorded (m.act host frame below action next) := by
  simp only [Recorded] at recorded ⊢
  cases action with
  | guard op =>
    simp only [Machine.act, Session.perform]
    split <;> simp [Entry.event?, Deed.ofAction, recorded]
  | ask request => simp [act_ask, Session.asked, Entry.event?, recorded]
  | launch => simp [act_launch, Entry.event?, recorded]

theorem leave_recorded (frame : Frame) (below : List Frame) (result : CallResult)
    {m : Machine σ τ} (recorded : Recorded m) : Recorded (m.leave frame below result) := by
  simp only [Recorded] at recorded ⊢
  cases below with
  | nil => simp [Machine.leave, Entry.event?, recorded]
  | cons => simp [Machine.leave, Entry.event?, Outside.record, recorded]

theorem advance_recorded (host : Host σ) {m : Machine σ τ} (recorded : Recorded m) :
    Recorded (m.advance host) := by
  unfold Machine.advance
  split
  · exact recorded
  · split
    · exact recorded
    · split
      · exact leave_recorded _ _ _ recorded
      · exact act_recorded host _ _ _ _ recorded

theorem progress_recorded (host : Host σ) (executor : Executor τ) (launch : LaunchId)
    {m : Machine σ τ} (recorded : Recorded m) : Recorded (m.progress host executor launch) := by
  cases found : m.session.launches[launch]? with
  | none => rwa [progress_absent executor found]
  | some fired =>
    obtain ⟨stage, events, outside, moved, log, advanced⟩ :=
      progress_cases host executor found
    have told := advanced.events launch fired.launcher.family
    simp only [Recorded] at recorded ⊢
    rw [moved, List.filterMap_append, recorded, told, log]

theorem execute_recorded (host : Host σ) (executor : Executor τ) (moves : List (Move σ))
    {m : Machine σ τ} (recorded : Recorded m) : Recorded (execute host executor moves m) := by
  induction moves generalizing m with
  | nil => exact recorded
  | cons move moves ih =>
    refine ih ?_
    cases move with
    | enter inRuntime family call =>
      simp only [Move.take, Machine.enter]
      split <;> exact recorded
    | advance => exact advance_recorded host recorded
    | aside event =>
      cases event with
      | progress launch => exact progress_recorded host executor launch recorded
      | change => exact recorded
      | hold => exact recorded

end Rendezvous.CallStack

import Rendezvous.Proofs.CallStackRuns

/-! Calls that modules make from inside their callbacks do no harm. They end, on whichever
family they are and however they nest; a call on a family whose setup is still under way is
turned away and leaves everything as it was; and the setup around them comes to its end. -/
namespace Rendezvous.CallStack

open Interleaving (program program_setup program_teardown)

/-- What calls have left in a journal. -/
def callsOf (journal : List Entry) : List Entry := journal.filter (·.deed.ofCall)

theorem callsOf_append (earlier later : List Entry) :
    callsOf (earlier ++ later) = callsOf earlier ++ callsOf later := List.filter_append ..

theorem Beside.calls {before after : Machine σ τ} (beside : Beside before after) :
    callsOf after.journal = callsOf before.journal := by
  obtain ⟨more, told, launches⟩ := beside.journal
  have none : callsOf more = [] := List.filter_eq_nil_iff.mpr fun entry member => by
    simp [launches entry member]
  rw [told, callsOf_append, none, List.append_nil]

/-- What a call leaves that is turned away. -/
def turnedAway (inRuntime : Bool) (call : Call) : List Deed :=
  (match call with
    | .setup => [.guard .tryBegin false]
    | .teardown => [.guard .tryTeardown false]
    | .state => []) ++ [.returned call inRuntime true call.refusal (some .inProgress)]

section Refusal

variable {hooks : Hooks} (host : Host σ) (executor : Executor τ) {m : Machine σ τ}
  {frame setup : Frame} {below : List Frame} {family : Family} {call : Call}
  {rest : List (Family × Call)} {env : Environment}

/-- While a module calls back, every call under way is a setup that holds its guard. -/
theorem Sound.busy (sound : Sound hooks m) (stacked : m.stack = frame :: below)
    (calling : frame.pending ≠ []) (under : setup ∈ m.stack) :
    ∃ env, m.session.hooks.get setup.family = some env ∧ env.state = .inProgress := by
  obtain ⟨standings, coherent⟩ := sound
  have waits : Waits (hooks.get setup.family) (standings.get setup.family) setup := by
    rw [stacked] at under
    rcases List.mem_cons.mp under with rfl | member
    · exact (coherent.stacked.fits _ _ stacked).calling calling
    · exact coherent.stacked.waits _ _ stacked setup member
  obtain ⟨env, loaded, busy⟩ := waits.holding
  exact ⟨_, coherent.loaded loaded, busy⟩

/-- A step that does not touch the environments, with what it leaves. -/
structure Quietly (before after : Machine σ τ) (stack : List Frame) (left : List Entry) :
    Prop where
  stack : after.stack = stack
  hooks : after.session.hooks = before.session.hooks
  calls : callsOf after.journal = callsOf before.journal ++ left

theorem Quietly.trans {first second third : Machine σ τ} {middle last : List Frame}
    {earlier later : List Entry} (one : Quietly first second middle earlier)
    (two : Quietly second third last later) : Quietly first third last (earlier ++ later) :=
  ⟨two.stack, two.hooks.trans one.hooks, by rw [two.calls, one.calls, List.append_assoc]⟩

variable (events : List (Aside σ))

theorem turn_call (stacked : m.stack = frame :: below)
    (pending : frame.pending = (family, call) :: rest)
    (loaded : m.session.hooks.get family = some env) :
    Quietly m ((asides host executor events m).advance host)
      (⟨family, call, frame.inRuntime, false, [], program env env.state call⟩ ::
        { frame with pending := rest } :: below) [] := by
  have beside := asides_beside host executor events m
  rw [advance_call (beside.stack.trans stacked) pending]
  refine ⟨?_, beside.hooks, by rw [List.append_nil, beside.calls]⟩
  simp only [Frame.arrive, beside.hooks, loaded]

theorem turn_foreign {op : GuardOp} {next : Bool → Program CallResult}
    (stacked : m.stack = ⟨family, call, inRuntime, false, [], .act (.guard op) next⟩ :: below)
    (loaded : m.session.hooks.get family = some env) (foreign : env.state ≠ op.source) :
    Quietly m ((asides host executor events m).advance host)
      (⟨family, call, inRuntime, false, [], next false⟩ :: below)
      [⟨family, .guard op false⟩] := by
  have beside := asides_beside host executor events m
  have kept : (asides host executor events m).session.hooks.get family = some env := by
    rw [beside.hooks, loaded]
  have unchanged : env.state.apply op = (false, env.state) := by
    simp [SetupState.apply, foreign]
  have same : (asides host executor events m).session.hooks.set family (some env) =
      (asides host executor events m).session.hooks := ByFamily.set_of_get kept
  have idle : begins (.guard op) false = false := by cases op <;> rfl
  rw [advance_act (beside.stack.trans stacked) rfl rfl, act_guard kept]
  simp only [unchanged, idle]
  refine ⟨rfl, same.trans beside.hooks, ?_⟩
  rw [callsOf_append, beside.calls]
  rfl

theorem turn_finish {next : Frame} {result : CallResult}
    (stacked : m.stack = ⟨family, call, inRuntime, begun, [], .finish result⟩ :: next :: below) :
    Quietly m ((asides host executor events m).advance host) (next :: below)
      [⟨family, .returned call inRuntime true result (m.session.state? family)⟩] := by
  have beside := asides_beside host executor events m
  rw [advance_finish (beside.stack.trans stacked) rfl rfl]
  refine ⟨rfl, beside.hooks, ?_⟩
  have state : (asides host executor events m).session.state? family =
      m.session.state? family := by rw [Session.state?, beside.hooks, Session.state?]
  rw [← state, ← beside.calls]
  exact callsOf_append ..

/-- A call on a family whose setup is under way is turned away, and all else is as before. -/
theorem turned_away (stacked : m.stack = frame :: below)
    (pending : frame.pending = (family, call) :: rest)
    (loaded : m.session.hooks.get family = some env) (busy : env.state = .inProgress)
    (world : Nat → List (Aside σ)) :
    ∃ n, Quietly m (turns host executor world n m) ({ frame with pending := rest } :: below)
      ((turnedAway frame.inRuntime call).map (⟨family, ·⟩)) := by
  have called := turn_call host executor (world 0) stacked pending loaded
  have inProgress (later : Machine σ τ) (same : later.session.hooks = m.session.hooks) :
      later.session.state? family = some .inProgress := by
    rw [Session.state?, same, loaded, ← busy]
    rfl
  -- A guard operation away from its source comes first, except where the guard is only read.
  have guarded {op : GuardOp} {next : Bool → Program CallResult}
      (first : program env env.state call = .act (.guard op) next)
      (foreign : env.state ≠ op.source) (refused : next false = .finish call.refusal) :
      ∃ n, Quietly m (turns host executor world n m) ({ frame with pending := rest } :: below)
        ([⟨family, .guard op false⟩] ++
          [⟨family, .returned call frame.inRuntime true call.refusal (some .inProgress)⟩]) := by
    rw [first] at called
    have tried := called.trans (turn_foreign host executor (world 1) called.stack
      (called.hooks ▸ loaded) foreign)
    have stack := tried.stack
    rw [refused] at stack
    have returned := turn_finish host executor (world 2) stack
    rw [inProgress _ tried.hooks] at returned
    exact ⟨3, tried.trans returned⟩
  cases call with
  | setup => exact guarded (program_setup env env.state) (by simp [busy, GuardOp.source]) rfl
  | teardown => exact guarded (program_teardown env env.state) (by simp [busy, GuardOp.source]) rfl
  | state =>
    have returned := turn_finish host executor (world 1) called.stack
    rw [inProgress _ called.hooks, busy] at returned
    exact ⟨2, called.trans returned⟩

end Refusal

/-- Calls that modules make from inside their callbacks are harmless. Whatever is under way comes
to an end, whatever goes on meanwhile, and a call returns and leaves behind what the session's
own call does. At most two setups are under way that have begun, of one family each. A call on
a family whose setup is under way is turned away: the guards stay as they are and it asks
nothing. Every family hands over at most one token, and the setup that does so returns completed
and leaves its guard done. -/
theorem nested_calls_harmless {hooks : Hooks} (fresh : hooks.Fresh) (host : Host σ)
    (executor : Executor τ) (memory : σ) (commands : τ) (moves : List (Move σ)) :
    let m := execute host executor moves (.start hooks memory commands)
    (∀ world, ∃ n, (turns host executor world n m).stack = []) ∧
    (m.stack = [] → ∀ inRuntime pace family call,
      let answer := m.session.callAmid host inRuntime (goingOn host executor pace) family call
      ∃ n, let last := ticks host executor pace n (m.enter inRuntime family call)
        last.stack = [] ∧ last.session = answer.2 ∧ ∃ earlier guard, last.journal =
          earlier ++ [⟨family, .returned call inRuntime false answer.1 guard⟩]) ∧
    (holders m.stack).Nodup ∧ (holders m.stack).length ≤ 2 ∧
    (∀ frame below family call rest, m.stack = frame :: below →
      frame.pending = (family, call) :: rest →
      (∃ setup ∈ m.stack, setup.family = family ∧ setup.call = .setup) →
      ∀ world, ∃ n, Quietly m (turns host executor world n m)
        ({ frame with pending := rest } :: below)
        ((turnedAway frame.inRuntime call).map (⟨family, ·⟩))) ∧
    ∀ family env, hooks.get family = some env →
      (handOvers (deeds family m.journal)).length ≤ 1 ∧
      (m.stack = [] → ∀ token ∈ handOvers (deeds family m.journal), ∃ inRuntime nested launch,
        [.asked (.schedule env.module token),
          .returned .setup inRuntime nested (.setup (.completed token launch))
            (some .done)].Sublist (deeds family m.journal)) := by
  intro m
  have sound : Sound hooks m :=
    execute_coherent fresh host executor moves (start_coherent fresh memory commands)
  refine ⟨?_, ?_, sound.depth.1, sound.depth.2, ?_, ?_⟩
  · intro world
    obtain ⟨n, quiet, _⟩ := (quiet_inevitable fresh host executor sound).turns world
    exact ⟨n, quiet⟩
  · intro quiet inRuntime pace family call answer
    obtain ⟨n, finished, reached, earlier, guard, _, told⟩ :=
      enter_answers host executor pace fresh sound quiet inRuntime family call
    exact ⟨n, finished, reached, earlier, guard, told⟩
  · intro frame below family call rest stacked pending under world
    obtain ⟨setup, member, rfl, _⟩ := under
    obtain ⟨env, loaded, busy⟩ := sound.busy stacked (by simp [pending]) member
    exact turned_away host executor stacked pending loaded busy world
  · intro family env loaded
    obtain ⟨standings, coherent⟩ := sound
    have spells := coherent.spells family
    rw [loaded] at spells
    rw [spells.handOvers_eq]
    refine ⟨by cases (standings.get family).token? <;> simp, ?_⟩
    intro quiet token member
    rcases coherent.at_rest quiet family with idle | ⟨made, finished⟩
    · simp [idle, Standing.token?] at member
    · obtain ⟨nested, returned⟩ := spells.made_returned finished
      rw [Standing.made?_token finished, Option.mem_toList] at member
      obtain rfl := Option.some.inj member
      exact ⟨_, nested, _, returned⟩

/-- Both families have the same module, which calls back on one of them. -/
def sharedModule : Hooks :=
  .install
    (.ofHistory [⟨.native, "process", .process "p"⟩,
      ⟨.native, "application.context", .context ⟨"app", 1⟩⟩,
      ⟨.native, "uitest", .module "m"⟩, ⟨.native, "test.PerfTest", .module "m"⟩])
    { requireTestMode := false }

def callingStage : Rehearsal.Stage :=
  { processes := [("p", ⟨7, 2⟩)], modules := [("m", .perf, [.setup, .teardown])] }

/-- The module has called back, and calls back again from there. -/
def calledTwice : Machine Rehearsal.Stage Unit :=
  execute Rehearsal.stageHost (Decoupling.stubborn none)
    (.enter true .ui .setup :: .replicate 9 .advance) (.start sharedModule callingStage ())

theorem calledTwice_turned_away :
    sharedModule.Fresh ∧ holders calledTwice.stack = [.perf, .ui] ∧
    (∃ frame below n, calledTwice.stack = frame :: below ∧
      Quietly calledTwice
        (turns Rehearsal.stageHost (Decoupling.stubborn none) (fun _ => []) n calledTwice)
        ({ frame with pending := [(.perf, .teardown)] } :: below)
        [⟨.perf, .guard .tryBegin false⟩,
          ⟨.perf, .returned .setup frame.inRuntime true (.setup .alreadyInitialized)
            (some .inProgress)⟩]) ∧
    ∃ n, (turns Rehearsal.stageHost (Decoupling.stubborn none) (fun _ => []) n
      calledTwice).stack = [] := by
  have fresh : sharedModule.Fresh := Hooks.install_fresh _ _
  obtain ⟨ends, _, _, _, refused, _⟩ := nested_calls_harmless fresh Rehearsal.stageHost
    (Decoupling.stubborn none) callingStage () (.enter true .ui .setup :: .replicate 9 .advance)
  have under : calledTwice.stack.map (fun frame => (frame.family, frame.call)) =
      [(.perf, .setup), (.ui, .setup)] := by decide +kernel
  have calling : calledTwice.stack.map (·.pending) =
      [[(.perf, .setup), (.perf, .teardown)], [(.perf, .teardown)]] := by decide +kernel
  obtain ⟨frame, below, stacked, pending, _⟩ := List.map_eq_cons_iff.mp calling
  rw [stacked, List.map_cons, List.cons.injEq] at under
  obtain ⟨family, call⟩ := Prod.mk.inj under.1
  obtain ⟨n, quietly⟩ := refused frame below .perf .setup _ stacked pending
    ⟨frame, stacked ▸ List.mem_cons_self, family, call⟩ fun _ => []
  exact ⟨fresh, by decide +kernel, ⟨frame, below, n, stacked, quietly⟩, ends fun _ => []⟩

end Rendezvous.CallStack

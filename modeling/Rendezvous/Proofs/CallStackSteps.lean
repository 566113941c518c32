import Rendezvous.Proofs.CallStackCoherence

/-! Every move of a call stack is a step of the course of one family and leaves the machine
coherent, whoever calls, whatever the host answers and however launches go on. -/
namespace Rendezvous.CallStack

open Interleaving (concluding program program_setup program_teardown)

theorem spells_steps {hooks : Hooks} {standings : ByFamily Standing} {journal : List Entry}
    (spells : ∀ family, Spells (hooks.get family) (deeds family journal) (standings.get family))
    {family : Family} {own : List Deed} {standing : Standing}
    (steps : Spells (hooks.get family) (deeds family journal ++ own) standing) (other : Family) :
    Spells (hooks.get other) (deeds other (journal ++ own.map (⟨family, ·⟩)))
      ((standings.set family standing).get other) := by
  by_cases same : other = family
  · subst same
    rwa [deeds_append, deeds_own, ByFamily.get_set_same]
  · rw [deeds_append, deeds_others same, List.append_nil, ByFamily.get_set_other same]
    exact spells other

/-- However far a launch gets, its family's course goes along. -/
theorem Advanced.spells {own : List Deed} {events : List Event}
    (advanced : Advanced offer fired stage events)
    (spells : Spells (some env) own (.fired made conduct since))
    (carries : Carries env fired conduct) (launcher : fired.launcher = env.launcher)
    (token : fired.token = made.token) :
    ∃ after, Spells (some env) (own ++ events.filterMap (Deed.ofLaunch made.launch offer))
      (.fired made after since) ∧ Carries env { fired with stage } after := by
  have command : fired.command = env.family.startCommand made.token := by
    rw [Launch.command, launcher, token]
    rfl
  have units : fired.launcher.timeoutUnits = env.settings.timeoutUnits := by
    rw [launcher]
    rfl
  cases advanced with
  | rest ended =>
    refine ⟨conduct, by simpa using spells, ?_⟩
    rwa [← ended]
  | wait running =>
    refine ⟨conduct, by simpa using spells, ?_⟩
    rwa [← running]
  | finish running exit =>
    cases carries with
    | begun delegator gone registered =>
      exact ⟨_, spells.snoc .stop, .begun delegator (by simp) registered⟩
    | waiting other | barren other | skipped other => simp [running] at other
  | skip created silent =>
    cases carries with
    | waiting _ registered =>
      subst silent
      exact ⟨_, spells.snoc (.lookUp registered), .skipped rfl⟩
    | barren other | skipped other => simp [created] at other
    | begun _ gone => contradiction
  | @start delegator created offered ticket =>
    cases carries with
    | waiting _ registered =>
      subst offered
      have started := spells.started registered delegator
      rw [← command, ← units] at started
      exact ⟨_, started, .begun _ (by simp) registered⟩
    | barren other | skipped other => simp [created] at other
    | begun _ gone => contradiction
  | @rush delegator created offered exit =>
    cases carries with
    | waiting _ registered =>
      subst offered
      have stop : Next (some env) (.fired made (.begun delegator) since)
          (.ended made.launch fired.registry) (.fired made (.begun delegator) since) := .stop
      have stopped := (spells.started registered delegator).snoc stop
      rw [← command, ← units, List.append_assoc] at stopped
      exact ⟨_, stopped, .begun delegator (by simp) registered⟩
    | barren other | skipped other => simp [created] at other
    | begun _ gone => contradiction

namespace Coherent

variable {host : Host σ} {hooks : Hooks} {m : Machine σ τ} {standings : ByFamily Standing}
  {frame : Frame} {below : List Frame} {env : Environment} {standing : Standing}

theorem loaded (coherent : Coherent hooks m standings) (loaded : hooks.get family = some env) :
    m.session.hooks.get family = some { env with state := (standings.get family).guard } := by
  rw [coherent.guards, loaded]
  rfl

theorem snoc (coherent : Coherent hooks m standings)
    (step : Next (hooks.get family) (standings.get family) deed standing) (other : Family) :
    Spells (hooks.get other) (deeds other (m.journal ++ [⟨family, deed⟩]))
      ((standings.set family standing).get other) :=
  spells_steps coherent.spells ((coherent.spells family).snoc step) other

theorem keep_guards (coherent : Coherent hooks m standings)
    (same : standing.guard = (standings.get family).guard) (other : Family) :
    m.session.hooks.get other = (hooks.get other).map fun env =>
      { env with state := ((standings.set family standing).get other).guard } := by
  rw [coherent.guards]
  by_cases own : other = family
  · subst own
    rw [ByFamily.get_set_same, same]
  · rw [ByFamily.get_set_other own]

/-- The innermost call asks the host. -/
theorem ask (coherent : Coherent hooks m standings) (stacked : m.stack = frame :: below)
    (standing : Standing) {request : Request} {next : request.Answer → Program CallResult}
    (step : Next (hooks.get frame.family) (standings.get frame.family) (.asked request) standing)
    (guard : standing.guard = (standings.get frame.family).guard)
    (launch : standing.launch? = (standings.get frame.family).launch?)
    (fits : ∀ answer, Fits (hooks.get frame.family) standing
      { frame with pending := callbacks (.ask request) answer, rest := next answer })
    (own : frame.begun = true ∨ ∀ token, standings.get frame.family ≠ .handed token)
    (holds : standing.busy = true → frame.begun = true) :
    Coherent hooks (m.act host frame below (.ask request) next)
      (standings.set frame.family standing) := by
  have under := coherent.stacked
  rw [stacked] at under
  rw [act_ask]
  exact ⟨coherent.keep_guards guard, coherent.snoc step,
    under.act rfl (fits _) own holds, coherent.ledger.keep launch⟩

/-- The innermost call applies an operation to its guard. -/
theorem guard (coherent : Coherent hooks m standings)
    (loaded : hooks.get frame.family = some env) {op : GuardOp}
    {next : Bool → Program CallResult} (standing : Standing) (changed : Bool)
    (applied : (standings.get frame.family).guard.apply op = (changed, standing.guard))
    (step : Next (hooks.get frame.family) (standings.get frame.family) (.guard op changed)
      standing)
    (launch : standing.launch? = (standings.get frame.family).launch?)
    (under : Stacked hooks (standings.set frame.family standing)
      ({ frame with
        begun := frame.begun || begins (.guard op) changed
        pending := []
        rest := next changed } :: below)) :
    Coherent hooks (m.act host frame below (.guard op) next)
      (standings.set frame.family standing) := by
  rw [act_guard (coherent.loaded loaded)]
  simp only [applied]
  refine ⟨?_, coherent.snoc step, under, coherent.ledger.keep launch⟩
  intro other
  by_cases own : other = frame.family
  · subst own
    simp [loaded]
  · simp only [ByFamily.get_set_other own]
    exact coherent.guards other

/-- The innermost call finds the guard elsewhere, and nothing changes but its rest. -/
theorem refused (coherent : Coherent hooks m standings) (stacked : m.stack = frame :: below)
    (loaded : hooks.get frame.family = some env) {op : GuardOp}
    {next : Bool → Program CallResult}
    (foreign : (standings.get frame.family).guard ≠ op.source)
    (step : Next (hooks.get frame.family) (standings.get frame.family) (.guard op false)
      (standings.get frame.family))
    (aside : frame.begun = false)
    (fits : Fits (hooks.get frame.family) (standings.get frame.family)
      { frame with begun := false, pending := [], rest := next false }) :
    ∃ after, Coherent hooks (m.act host frame below (.guard op) next) after := by
  have kept : standings.set frame.family (standings.get frame.family) = standings :=
    ByFamily.set_of_get rfl
  have under := coherent.stacked
  rw [stacked] at under
  refine ⟨_, coherent.guard loaded _ false ?_ step rfl ?_⟩
  · simp [SetupState.apply, foreign]
  · have still : begins (.guard op) false = false := by cases op <;> rfl
    rw [kept, aside, still]
    exact under.idle rfl fits aside rfl

/-- The innermost call returns. -/
theorem leave (coherent : Coherent hooks m standings) {result : CallResult} (standing : Standing)
    (step : Next (hooks.get frame.family) (standings.get frame.family)
      (.returned frame.call frame.inRuntime (!below.isEmpty) result
        (m.session.state? frame.family)) standing)
    (guard : standing.guard = (standings.get frame.family).guard)
    (launch : standing.launch? = (standings.get frame.family).launch?)
    (under : Stacked hooks (standings.set frame.family standing) below) :
    Coherent hooks (m.leave frame below result) (standings.set frame.family standing) := by
  have same : (m.leave frame below result).session.hooks = m.session.hooks ∧
      (m.leave frame below result).session.launches = m.session.launches := by
    simp only [Machine.leave]
    split <;> exact ⟨rfl, rfl⟩
  refine ⟨?_, coherent.snoc step, under, ?_⟩
  · rw [same.1]
    exact coherent.keep_guards guard
  · rw [same.2]
    exact coherent.ledger.keep launch

theorem arrive_fits (coherent : Coherent hooks m standings) (inRuntime : Bool) (family : Family)
    (call : Call) :
    Fits (hooks.get family) (standings.get family) (.arrive m.session inRuntime family call) := by
  unfold Frame.arrive
  rw [coherent.guards]
  cases hooks.get family with
  | none => exact .answered (by simp) (by simp)
  | some env => exact .coming (standings.get family).guard call

/-- The module of a setup that has handed over calls back. -/
theorem callback (coherent : Coherent hooks m standings) (stacked : m.stack = frame :: below)
    (waits : Waits (hooks.get frame.family) (standings.get frame.family) now)
    (same : now.family = frame.family) (begun : frame.begun = true) (family : Family)
    (call : Call) :
    Coherent hooks
      { m with
        stack := .arrive m.session frame.inRuntime family call :: now :: below } standings := by
  have under := coherent.stacked
  rw [stacked] at under
  exact ⟨coherent.guards, coherent.spells,
    under.call waits same begun (coherent.arrive_fits ..) rfl, coherent.ledger⟩

theorem advance_answered (coherent : Coherent hooks m standings) (host : Host σ)
    (stacked : m.stack = ⟨family, call, inRuntime, begun, [], .finish result⟩ :: below)
    (other : ∀ token launch, result ≠ .setup (.completed token launch))
    (finished : begun = true → standings.get family = .idle) :
    ∃ after, Coherent hooks (m.advance host) after := by
  have kept : standings.set family (standings.get family) = standings := ByFamily.set_of_get rfl
  have under := coherent.stacked
  rw [stacked] at under
  rw [advance_finish stacked rfl rfl]
  refine ⟨_, coherent.leave _ (.answer _ other) rfl rfl ?_⟩
  rw [kept]
  exact under.leave fun top => by rw [finished top]; rfl

theorem advance_coming (coherent : Coherent hooks m standings) (host : Host σ)
    (loaded : hooks.get family = some env) (guard : SetupState) (call : Call)
    (stacked : m.stack = ⟨family, call, inRuntime, false, [], program env guard call⟩ :: below) :
    ∃ after, Coherent hooks (m.advance host) after := by
  have under := coherent.stacked
  rw [stacked] at under
  cases call with
  | state =>
    have answered : m.stack = ⟨family, .state, inRuntime, false, [], .finish (.state guard)⟩ ::
        below := stacked
    exact coherent.advance_answered host answered (by simp) (by simp)
  | setup =>
    rw [program_setup] at stacked
    rw [advance_act stacked rfl rfl]
    by_cases fresh : (standings.get family).guard = .notStarted
    · have idle : standings.get family = .idle := by
        revert fresh
        cases standings.get family with
        | fired made conduct since => cases since <;> simp [Standing.guard]
        | _ => simp [Standing.guard]
      refine ⟨_, coherent.guard loaded .held true ?_ ?_ ?_ ?_⟩
      · rw [idle]; rfl
      · rw [loaded, idle]; exact .begin
      · rw [idle]; rfl
      · refine under.act rfl ?_ (.inr (by simp [idle])) fun _ => rfl
        rw [loaded]
        exact .attempting env.attempt_connects
    · exact coherent.refused stacked loaded fresh (.late fresh) rfl (.answered (by simp) (by simp))
  | teardown =>
    rw [program_teardown] at stacked
    rw [advance_act stacked rfl rfl]
    by_cases ready : (standings.get family).guard = .done
    · obtain ⟨made, conduct, returned⟩ :
          ∃ made conduct, standings.get family = .fired made conduct .returned := by
        have waiting := under.busy_handed rfl family
        revert ready waiting
        cases standings.get family with
        | fired made conduct since => cases since <;> simp [Standing.guard, Standing.busy]
        | _ => simp [Standing.guard]
      refine ⟨_, coherent.guard loaded (.fired made conduct .closed) true ?_ ?_ ?_ ?_⟩
      · rw [returned]; rfl
      · rw [returned]; exact .close
      · rw [returned]; rfl
      · refine under.act rfl ?_ (.inr (by simp [returned])) (by simp [Standing.busy])
        rw [loaded]
        exact .closing
    · exact coherent.refused stacked loaded ready (.early ready) rfl (.answered (by simp) (by simp))

/-- One step of an attempt. -/
theorem advance_attempting (coherent : Coherent hooks m standings) (host : Host σ)
    (loaded : hooks.get family = some env) (held : standings.get family = .held)
    (connects : env.Connects attempt)
    (stacked : m.stack = ⟨family, .setup, inRuntime, true, [], concluding attempt⟩ :: below) :
    ∃ after, Coherent hooks (m.advance host) after := by
  have under := coherent.stacked
  rw [stacked] at under
  cases connects with
  | @giveUp outcome incomplete admitted =>
    have aborts : (if outcome.isCompleted then GuardOp.complete else .abort) = .abort := by
      simp [incomplete]
    rw [Interleaving.concluding_finish, aborts] at stacked
    rw [advance_act stacked rfl rfl]
    refine ⟨_, coherent.guard loaded .idle true ?_ ?_ ?_ ?_⟩
    · rw [held]; rfl
    · rw [held]; exact .giveUp
    · rw [held]; rfl
    · refine under.act rfl (.answered ?_ fun _ => rfl) (.inl rfl) (by simp [Standing.busy])
      rintro token launch equal
      obtain rfl := CallResult.setup.inj equal
      simp [SetupOutcome.isCompleted] at incomplete
  | @ask request next question rest =>
    rw [Interleaving.concluding_act] at stacked
    rw [advance_act stacked rfl rfl]
    have plain (answer : request.Answer) : callbacks (.ask request) answer = [] := by
      cases request <;> simp_all [Interleaving.isQuestion, callbacks]
    refine ⟨_, coherent.ask stacked .held ?_ ?_ ?_ ?_ (.inl rfl) fun _ => rfl⟩
    · rw [held]; exact .ask question
    · rw [held]
    · rw [held]
    · intro answer
      rw [loaded, plain]
      exact .attempting (rest answer)
  | handOver token =>
    rw [Interleaving.concluding_act] at stacked
    rw [advance_act stacked rfl rfl]
    refine ⟨_, coherent.ask stacked (.handed token) ?_ ?_ ?_ ?_ (.inl rfl)
      fun _ => rfl⟩
    · rw [loaded, held]; exact .handOver
    · rw [held]; rfl
    · rw [held]; rfl
    · intro calls
      rw [loaded]
      exact .handed calls

theorem advance_handed (coherent : Coherent hooks m standings) (fresh : hooks.Fresh)
    (host : Host σ) (loaded : hooks.get family = some env)
    (handed : standings.get family = .handed token)
    (stacked : m.stack = ⟨family, .setup, inRuntime, true, pending,
      concluding (.act (.launch env.launcher env.resolver.registry token)
        fun launch => .finish (.completed token launch))⟩ :: below) :
    ∃ after, Coherent hooks (m.advance host) after := by
  have under := coherent.stacked
  rw [stacked] at under
  cases pending with
  | cons called pending =>
    obtain ⟨target, call⟩ := called
    rw [advance_call stacked rfl]
    have waits : Waits (hooks.get family) (standings.get family)
        ⟨family, .setup, inRuntime, true, pending,
          concluding (.act (.launch env.launcher env.resolver.registry token)
            fun launch => .finish (.completed token launch))⟩ := by
      refine ⟨rfl, ⟨token, handed⟩, ?_⟩
      rw [loaded, handed]
      exact .handed pending
    exact ⟨standings, coherent.callback stacked waits rfl rfl target call⟩
  | nil =>
    rw [Interleaving.concluding_act] at stacked
    rw [advance_act stacked rfl rfl, act_launch]
    refine ⟨standings.set family (.fired ⟨token, m.session.launches.length, inRuntime⟩
      (.ofFire inRuntime env.resolver.registry) .firing), ?_, ?_, ?_, ?_⟩
    · exact coherent.keep_guards (by rw [handed]; rfl)
    · exact coherent.snoc (by rw [loaded, handed]; exact .fire)
    · refine under.act rfl ?_ (.inl rfl) fun _ => rfl
      rw [loaded]
      exact .firing
    · exact coherent.ledger.fire loaded (fresh family env loaded).1 (by rw [handed]; rfl) ..

theorem advance_firing (coherent : Coherent hooks m standings) (host : Host σ)
    (loaded : hooks.get family = some env)
    (fired : standings.get family = .fired made conduct .firing)
    (stacked : m.stack = ⟨family, .setup, made.inRuntime, true, [],
      concluding (.finish (.completed made.token made.launch))⟩ :: below) :
    ∃ after, Coherent hooks (m.advance host) after := by
  have under := coherent.stacked
  rw [stacked] at under
  rw [Interleaving.concluding_finish] at stacked
  rw [advance_act stacked rfl rfl]
  refine ⟨_, coherent.guard loaded (.fired made conduct .marked) true
    ?_ ?_ ?_ ?_⟩
  · rw [fired]; rfl
  · rw [fired]; exact .complete
  · rw [fired]; rfl
  · refine under.act rfl ?_ (.inl rfl) fun _ => rfl
    rw [loaded]
    exact .marked

theorem advance_marked (coherent : Coherent hooks m standings) (host : Host σ)
    (loaded : hooks.get family = some env)
    (marked : standings.get family = .fired made conduct .marked)
    (stacked : m.stack = ⟨family, .setup, made.inRuntime, true, [],
      .finish (.setup (.completed made.token made.launch))⟩ :: below) :
    ∃ after, Coherent hooks (m.advance host) after := by
  have under := coherent.stacked
  rw [stacked] at under
  have done : m.session.state? family = some .done := by
    rw [Session.state?, coherent.loaded loaded, marked]
    rfl
  rw [advance_finish stacked rfl rfl]
  refine ⟨_, coherent.leave (.fired made conduct .returned) ?_ ?_ ?_ ?_⟩
  · rw [marked, done]; exact .finish
  · rw [marked]; rfl
  · rw [marked]; rfl
  · exact under.settle (.inl rfl) rfl

theorem advance_closing (coherent : Coherent hooks m standings) (host : Host σ)
    (loaded : hooks.get family = some env)
    (closed : standings.get family = .fired made conduct .closed)
    (stacked : m.stack = ⟨family, .teardown, inRuntime, false, [],
      .act (.ask (.dispose env.module)) fun _ => .finish (.teardown .tornDown)⟩ :: below) :
    ∃ after, Coherent hooks (m.advance host) after := by
  rw [advance_act stacked rfl rfl]
  refine ⟨_, coherent.ask stacked (.fired made conduct .closed) ?_ ?_ ?_ ?_
    (.inr ?_) (by simp [Standing.busy])⟩
  · rw [loaded, closed]; exact .dispose
  · rw [closed]
  · rw [closed]
  · intro answer
    exact .answered (by simp) (by simp)
  · simp [closed]

/-- One step of the innermost call. -/
theorem advance (coherent : Coherent hooks m standings) (fresh : hooks.Fresh) (host : Host σ) :
    ∃ after, Coherent hooks (m.advance host) after := by
  cases stacked : m.stack with
  | nil => exact ⟨standings, by rwa [advance_quiet stacked]⟩
  | cons frame below =>
    have under := coherent.stacked
    rw [stacked] at under
    have fits := under.fits _ _ rfl
    generalize loaded : hooks.get frame.family = environment at fits
    generalize stands : standings.get frame.family = standing at fits
    cases fits with
    | answered other finished =>
      exact coherent.advance_answered host stacked other fun top => stands.trans (finished top)
    | coming guard call => exact coherent.advance_coming host loaded guard call stacked
    | attempting connects => exact coherent.advance_attempting host loaded stands connects stacked
    | handed pending => exact coherent.advance_handed fresh host loaded stands stacked
    | firing => exact coherent.advance_firing host loaded stands stacked
    | marked => exact coherent.advance_marked host loaded stands stacked
    | closing => exact coherent.advance_closing host loaded stands stacked

/-- A launch goes on, and its family with it. -/
theorem progress (coherent : Coherent hooks m standings) (fresh : hooks.Fresh) (host : Host σ)
    (executor : Executor τ) (launch : LaunchId) :
    ∃ after, Coherent hooks (m.progress host executor launch) after := by
  cases found : m.session.launches[launch]? with
  | none => exact ⟨standings, by rwa [progress_absent executor found]⟩
  | some fired =>
    obtain ⟨stage, events, outside, moved, log, advanced⟩ :=
      progress_cases host executor found
    obtain ⟨made, conduct, mine, rfl⟩ := coherent.ledger.owned launch fired found
    obtain ⟨env, fired', loaded, found', launcher, token, carries⟩ :=
      coherent.ledger.carried _ _ _ mine
    obtain rfl : fired = fired' := Option.some.inj (found.symm.trans found')
    obtain ⟨since, stands⟩ : ∃ since,
        standings.get fired.launcher.family = .fired made conduct since := by
      revert mine
      cases standings.get fired.launcher.family <;> simp [Standing.launch?]
    have spells := coherent.spells fired.launcher.family
    rw [loaded, stands] at spells
    obtain ⟨after, spelled, carries⟩ := advanced.spells spells carries launcher token
    rw [← loaded] at spelled
    rw [moved]
    refine ⟨standings.set fired.launcher.family (.fired made after since), ?_, ?_, ?_, ?_⟩
    · refine coherent.keep_guards ?_
      rw [stands]
      cases since <;> rfl
    · exact spells_steps coherent.spells spelled
    · exact coherent.stacked.any_conduct stands after
    · exact coherent.ledger.advance fresh found loaded mine rfl carries

/-- What goes on in the world keeps the machine coherent, and leaves the stack as it is. -/
theorem aside (coherent : Coherent hooks m standings) (fresh : hooks.Fresh) (host : Host σ)
    (executor : Executor τ) (event : Aside σ) :
    ∃ after, Coherent hooks (event.take host executor m) after := by
  cases event with
  | progress launch => exact coherent.progress fresh host executor launch
  | change f | hold held =>
    exact ⟨standings, coherent.guards, coherent.spells, coherent.stacked, coherent.ledger⟩

theorem enter (coherent : Coherent hooks m standings) (inRuntime : Bool) (family : Family)
    (call : Call) : Coherent hooks (m.enter inRuntime family call) standings := by
  unfold Machine.enter
  split
  · rename_i quiet
    have under := coherent.stacked
    rw [List.isEmpty_iff.mp quiet] at under
    refine ⟨coherent.guards, coherent.spells, ⟨?_, ?_, ?_, ?_⟩, coherent.ledger⟩
    · rintro _ _ ⟨⟩
      exact coherent.arrive_fits ..
    · rintro _ _ ⟨⟩
      simp
    · exact under.apart
    · exact under.busy
  · exact coherent

theorem take (coherent : Coherent hooks m standings) (fresh : hooks.Fresh) (host : Host σ)
    (executor : Executor τ) (move : Move σ) :
    ∃ after, Coherent hooks (move.take host executor m) after := by
  cases move with
  | enter inRuntime family call => exact ⟨standings, coherent.enter inRuntime family call⟩
  | advance => exact coherent.advance fresh host
  | aside event => exact coherent.aside fresh host executor event

end Coherent

theorem start_coherent {hooks : Hooks} (fresh : hooks.Fresh) (memory : σ) (commands : τ) :
    Coherent hooks (.start hooks memory commands) ⟨.idle, .idle⟩ := by
  have idle (family : Family) : ByFamily.get ⟨Standing.idle, .idle⟩ family = .idle := by
    cases family <;> rfl
  refine ⟨?_, ?_, ⟨?_, ?_, ?_, ?_⟩, ⟨?_, ?_⟩⟩
  · intro family
    change hooks.get family = _
    cases loaded : hooks.get family with
    | none => rfl
    | some env => simp [idle, Standing.guard, ← (fresh family env loaded).2]
  · intro family
    rw [idle]
    exact .nil
  · simp [Machine.start]
  · simp [Machine.start]
  · exact List.nodup_nil
  · simp [idle, Standing.busy]
  · simp [idle, Standing.launch?]
  · simp [Machine.start, Session.start]

/-- Every machine that comes up in a session is coherent. -/
theorem execute_coherent {hooks : Hooks} (fresh : hooks.Fresh) (host : Host σ)
    (executor : Executor τ) (moves : List (Move σ)) {m : Machine σ τ}
    (coherent : Coherent hooks m standings) :
    ∃ after, Coherent hooks (execute host executor moves m) after := by
  induction moves generalizing m standings with
  | nil => exact ⟨standings, coherent⟩
  | cons move moves ih =>
    obtain ⟨after, coherent⟩ := coherent.take fresh host executor move
    exact ih coherent

end Rendezvous.CallStack

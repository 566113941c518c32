import Rendezvous.Proofs.CallStackRuns

/-! One token for the module and the daemon. The command that a launch starts, however late and
in whatever order, names the token that its own family has handed over before, and has the time that
is configured for the family; and no launch is lost or made twice. -/
namespace Rendezvous.CallStack

/-- A setup of the family has returned completed, with this token and this launch. -/
def Completes (family : Family) (token : Token) (launch : LaunchId) (inRuntime : Bool)
    (journal : List Entry) : Prop :=
  ∃ nested guard,
    ⟨family, .returned .setup inRuntime nested (.setup (.completed token launch)) guard⟩ ∈ journal

/-- The family's launch is to look for a delegator: a setup has completed inside a runtime, and
its environment has a registry. -/
def Due (hooks : Hooks) (family : Family) (journal : List Entry) : Prop :=
  ∃ env token launch, hooks.get family = some env ∧ env.resolver.registry ≠ none ∧
    Completes family token launch true journal

/-- What is true of a command that is started after these entries: it names the one token that
its family hands over, it has the time that is configured for the family, and the setup that
completes with this token has fired its launch. -/
structure FollowsHandOver (config : BootstrapConfig) (m : Machine σ τ) (earlier : List Entry)
    (family : Family) (env : Environment) (token : Token) (launch : LaunchId) (command : String)
    (timeoutUnits : UInt32) : Prop where
  handed : ⟨family, .asked (.schedule env.module token)⟩ ∈ earlier
  before : handOvers (deeds family earlier) = [token]
  only : handOvers (deeds family m.journal) = [token]
  names : command = family.tool ++ " start-daemon " ++ token.text
  within : timeoutUnits = (⟨config.uiTimeout, config.perfTimeout⟩ : ByFamily UInt32).get family
  same : ∀ completed fired inRuntime, Completes family completed fired inRuntime m.journal →
    completed = token ∧ fired = launch ∧ inRuntime = true
  completes : m.stack = [] → Completes family token launch true m.journal

namespace Coherent

variable {hooks : Hooks} {m : Machine σ τ} {standings : ByFamily Standing} {family : Family}
  {env : Environment}

theorem completes_iff (coherent : Coherent hooks m standings) :
    Completes family token launch inRuntime m.journal ↔
      (standings.get family).made? = some ⟨token, launch, inRuntime⟩ := by
  have spells := coherent.spells family
  constructor
  · rintro ⟨nested, guard, member⟩
    exact spells.returned_made (mem_deeds.mpr member)
  · intro finished
    cases loaded : hooks.get family with
    | none =>
      rw [loaded] at spells
      rw [spells.unloaded] at finished
      contradiction
    | some env =>
      rw [loaded] at spells
      obtain ⟨nested, returned⟩ := spells.made_returned finished
      have member := returned.subset (List.mem_cons_of_mem _ List.mem_cons_self)
      exact ⟨nested, _, mem_deeds.mp member⟩

theorem due_iff (coherent : Coherent hooks m standings) (loaded : hooks.get family = some env)
    (finished : (standings.get family).made? = some made) :
    Due hooks family m.journal ↔ made.inRuntime = true ∧ env.resolver.registry ≠ none := by
  constructor
  · rintro ⟨env', token, launch, loaded', registered, completes⟩
    obtain rfl := Option.some.inj (loaded.symm.trans loaded')
    obtain rfl := Option.some.inj (finished.symm.trans (coherent.completes_iff.mp completes))
    exact ⟨rfl, registered⟩
  · rintro ⟨inside, registered⟩
    refine ⟨env, made.token, made.launch, loaded, registered, coherent.completes_iff.mpr ?_⟩
    rw [finished, ← inside]

/-- Once every launch has ended, that of the family has looked for its delegator if it was to,
and has started its command if it was offered one. -/
theorem starts_settled (coherent : Coherent hooks m standings) (quiet : m.stack = [])
    (ended : ∀ launch ∈ m.session.launches, launch.exit?.isSome = true) :
    (Due hooks family m.journal → ∃ offer, lookUps (deeds family m.journal) = [offer] ∧
      starts (deeds family m.journal) = if offer.isSome then 1 else 0) ∧
    (¬ Due hooks family m.journal → starts (deeds family m.journal) = 0) := by
  have spells := coherent.spells family
  rcases coherent.at_rest quiet family with idle | ⟨made, finished⟩
  · have never : ¬ Due hooks family m.journal := by
      rintro ⟨_, token, launch, _, _, completes⟩
      have finished := coherent.completes_iff.mp completes
      rw [idle] at finished
      contradiction
    exact ⟨fun due => absurd due never, fun _ => by rw [spells.starts_eq, idle]; rfl⟩
  · obtain ⟨conduct, since, fired⟩ := Standing.made?_fired finished
    obtain ⟨env, launch, loaded, found, _, _, carries⟩ :=
      coherent.ledger.carried family made conduct (by rw [fired]; rfl)
    have finished := coherent.due_iff loaded finished
    rw [spells.starts_eq, spells.lookUps_eq]
    rw [fired, loaded] at spells
    rw [fired]
    have barren := spells.conduct_barren
    rw [← finished] at barren
    cases carries with
    | waiting created =>
      have stage := ended launch (List.mem_of_getElem? found)
      simp [Launch.exit?, created] at stage
    | barren => exact ⟨fun due => absurd due (barren.mp rfl), fun _ => rfl⟩
    | skipped => exact ⟨fun _ => ⟨none, rfl, rfl⟩, fun _ => rfl⟩
    | begun delegator =>
      exact ⟨fun _ => ⟨some delegator, rfl, rfl⟩, fun never => nomatch barren.mpr never⟩

theorem follows_hand_over (coherent : Coherent (.install resolver config) m standings)
    (split : m.journal =
      earlier ++ ⟨family, .started launch registry command timeoutUnits⟩ :: later) :
    ∃ env token, (Hooks.install resolver config).get family = some env ∧
      FollowsHandOver config m earlier family env token launch command timeoutUnits := by
  have spells := coherent.spells family
  have cut : deeds family m.journal = deeds family earlier ++
      .started launch registry command timeoutUnits :: deeds family later := by
    simp [split]
  obtain ⟨env, made, delegator, since, loaded, fired, rfl, rfl, rfl⟩ :=
    spells.started_fired (cut ▸ List.mem_append_right _ List.mem_cons_self)
  rw [loaded, fired] at spells
  obtain ⟨before, handed⟩ := spells.started_after cut
  have inside : made.inRuntime = true := by
    by_contra outside
    exact nomatch spells.conduct_barren.mpr fun both => outside both.1
  have unique {other : Fired} (finished : (standings.get family).made? = some other) :
      other = made := by
    obtain ⟨_, _, again⟩ := Standing.made?_fired finished
    exact (Standing.fired.inj (again.symm.trans fired)).1
  obtain ⟨module, _, installed⟩ := Hooks.get_install_eq_some.mp loaded
  refine ⟨env, made.token, loaded, mem_deeds.mp handed, before, ?_, ?_, ?_, ?_, ?_⟩
  · rw [spells.handOvers_eq]
    rfl
  · rw [installed]
    rfl
  · rw [installed]
    cases family <;> rfl
  · intro token launch inRuntime completes
    obtain rfl := unique (coherent.completes_iff.mp completes)
    exact ⟨rfl, rfl, inside⟩
  · intro quiet
    refine coherent.completes_iff.mpr ?_
    rcases coherent.at_rest quiet family with idle | ⟨other, finished⟩
    · rw [idle] at fired
      contradiction
    · obtain rfl := unique finished
      rw [finished, ← inside]

end Coherent

/-- No launch is lost, made twice or made with another token. Every run of a session is a run of
the machine, and in all of these the log is the journal without its families. Every command that
is started names the one token that its own family has handed over before, which is that of the
completed setup, and has the time that the configuration gives the family. Once all launches have
ended, a family whose setup has completed inside a runtime and with a registry has looked for a
delegator once, and has started its command once if it was offered one; in all other cases it has
started none. -/
theorem launches_follow_hand_overs (resolver : Resolver) (config : BootstrapConfig) (host : Host σ)
    (executor : Executor τ) (memory : σ) (commands : τ) :
    let hooks := Hooks.install resolver config
    (∀ steps, let run := Decoupling.observe host executor steps (.start hooks memory commands)
      Leads host executor (.start hooks memory commands) run.2 (run.1.map (·.result))) ∧
    ∀ moves, let m := execute host executor moves (.start hooks memory commands)
      m.journal.filterMap Entry.event? = m.session.outside.log ∧
      (∀ earlier later family launch registry command timeoutUnits,
        m.journal = earlier ++ ⟨family, .started launch registry command timeoutUnits⟩ :: later →
        ∃ env token, hooks.get family = some env ∧
          FollowsHandOver config m earlier family env token launch command timeoutUnits) ∧
      (m.stack = [] → (∀ launch ∈ m.session.launches, launch.exit?.isSome = true) → ∀ family,
        (Due hooks family m.journal → ∃ offer, lookUps (deeds family m.journal) = [offer] ∧
          starts (deeds family m.journal) = if offer.isSome then 1 else 0) ∧
        (¬ Due hooks family m.journal → starts (deeds family m.journal) = 0)) := by
  intro hooks
  have fresh : hooks.Fresh := Hooks.install_fresh resolver config
  have start : Coherent hooks (.start hooks memory commands : Machine σ τ) ⟨.idle, .idle⟩ :=
    start_coherent fresh memory commands
  refine ⟨fun steps => observe_leads fresh host executor steps ⟨_, start⟩ rfl, ?_⟩
  intro moves m
  obtain ⟨standings, coherent⟩ : ∃ standings, Coherent hooks m standings :=
    execute_coherent fresh host executor moves start
  refine ⟨execute_recorded host executor moves rfl, ?_, ?_⟩
  · intro earlier later family launch registry command timeoutUnits split
    exact coherent.follows_hand_over split
  · intro quiet ended family
    exact coherent.starts_settled quiet ended

/-- Times that no family has by default. -/
def patient : BootstrapConfig := { requireTestMode := false, uiTimeout := 20, perfTimeout := 40 }

def offeringStage (pid : UInt32) : Rehearsal.Stage :=
  { processes := [("p", ⟨pid, 2⟩)], registries := [("r", some 0)], contexts := [⟨"app", 1⟩] }

/-- The host changes its mind after each setup, and the later launch goes first. -/
def sharedMoves : List (Move Rehearsal.Stage) :=
  .enter true .ui .setup :: .replicate 9 .advance ++
    .aside (.change fun _ => offeringStage 8) ::
  .enter true .perf .setup :: .replicate 9 .advance ++
    [.aside (.change fun _ => offeringStage 9), .aside (.hold ⟨none, none⟩),
      .aside (.progress 1), .aside (.progress 0)]

def bothStarted : Machine Rehearsal.Stage Unit :=
  execute Rehearsal.stageHost (Decoupling.stubborn (some (.returned ⟨"", 0⟩))) sharedMoves
    (.start (.install Decoupling.bothFamilies patient) (offeringStage 7) ())

theorem bothStarted_once :
    bothStarted.session.outside.log.filterMap
      (fun | .started _ command timeoutUnits => some (command, timeoutUnits) | _ => none) =
      [("perftest start-daemon app@8@2@1", 40), ("uitest start-daemon app@7@2@1", 20)] ∧
    (∀ earlier later family launch registry command timeoutUnits,
      bothStarted.journal =
        earlier ++ ⟨family, .started launch registry command timeoutUnits⟩ :: later →
      timeoutUnits = (⟨20, 40⟩ : ByFamily UInt32).get family) ∧
    starts (deeds .ui bothStarted.journal) = 1 ∧ starts (deeds .perf bothStarted.journal) = 1 := by
  obtain ⟨_, runs⟩ := launches_follow_hand_overs Decoupling.bothFamilies patient Rehearsal.stageHost
    (Decoupling.stubborn (some (.returned ⟨"", 0⟩))) (offeringStage 7) ()
  obtain ⟨_, followed, settled⟩ := runs sharedMoves
  have once (family : Family)
      (due : Due (.install Decoupling.bothFamilies patient) family bothStarted.journal)
      (offered : lookUps (deeds family bothStarted.journal) = [some 0]) :
      starts (deeds family bothStarted.journal) = 1 := by
    obtain ⟨offer, found, started⟩ :=
      (settled (by decide +kernel) (by decide +kernel) family).1 due
    obtain rfl := (List.cons.inj (offered.symm.trans found)).1
    exact started
  refine ⟨by decide +kernel, ?_, once .ui ?_ (by decide +kernel), once .perf ?_ (by decide +kernel)⟩
  · intro earlier later family launch registry command timeoutUnits split
    obtain ⟨_, _, _, follows⟩ := followed _ _ _ _ _ _ _ split
    exact follows.within
  · exact ⟨_, ⟨"app@7@2@1"⟩, 0, rfl, by decide +kernel, false, some .done, by decide +kernel⟩
  · exact ⟨_, ⟨"app@8@2@1"⟩, 1, rfl, by decide +kernel, false, some .done, by decide +kernel⟩

end Rendezvous.CallStack

import Rendezvous.Proofs.InterleavingOwnership

/-! What the coherence of every reachable state says about a whole run: nothing happens
twice, everything happens in order, the guard is in progress exactly while somebody owns it,
and whoever is turned away is turned away for a reason. -/
namespace Rendezvous.Interleaving

theorem concluding_not_finish (attempt : Program SetupOutcome) (inside : Bool) :
    Caller.result? ⟨concluding attempt, inside⟩ = none := by
  cases attempt <;> rfl

/-- A call that has returned stands by, has completed or has closed. -/
theorem Fits.returned {env : Environment} {role : Role} {own : List Deed} {caller : Caller}
    (fits : Fits env role own caller) (returned : caller.result? = some result) :
    (role = .bystander ∧
      (result = .setup .alreadyInitialized → own = [.guard .tryBegin false]) ∧
      (result = .teardown .notSetUp → own = [.guard .tryTeardown false]) ∧
      (∀ token launch, result ≠ .setup (.completed token launch)) ∧
      result ≠ .teardown .tornDown) ∨
    (role = .completed ∧ ∃ token launch, result = .setup (.completed token launch)) ∨
    (role = .closed ∧ result = .teardown .tornDown) := by
  cases fits with
  | coming guard call =>
    cases call with
    | setup => simp [program_setup, Caller.result?] at returned
    | teardown => simp [program_teardown, Caller.result?] at returned
    | state =>
      obtain rfl : _ = result := by simpa [program, Caller.result?] using returned
      simp
  | late | early | completed | closed =>
    obtain rfl : _ = result := by simpa [Caller.result?] using returned
    simp
  | gaveUp incomplete admitted =>
    obtain rfl : _ = result := by simpa [Caller.result?] using returned
    refine .inl ⟨rfl, by simp [admitted], by simp, ?_, by simp⟩
    rintro token launch equal
    obtain rfl := CallResult.setup.inj equal
    simp [SetupOutcome.isCompleted] at incomplete
  | attempting | asking | scheduling | scheduled | launched =>
    rw [concluding_not_finish] at returned
    contradiction
  | closing | disposing => simp [Caller.result?] at returned

namespace Coherent

variable {env : Environment} {s : State} {phase : Phase} {id : Nat}

theorem result_fits (coherent : Coherent env s phase) (returned : s.result? id = some result) :
    ∃ caller, caller.result? = some result ∧
      Fits env (phase.role id) (deeds id s.log) caller := by
  obtain ⟨caller, found, returned⟩ := Option.bind_eq_some_iff.mp returned
  exact ⟨caller, returned, coherent.fits id caller found⟩

/-- A caller with a part to play is there. -/
theorem present (coherent : Coherent env s phase) (id : Nat)
    (plays : phase.role id ≠ .bystander) :
    ∃ caller, s.callers[id]? = some caller := by
  have bound : id < s.callers.length :=
    Nat.lt_of_not_le fun beyond => plays (coherent.absent id beyond).1
  exact ⟨_, List.getElem?_eq_getElem bound⟩

theorem completed_iff (coherent : Coherent env s phase) (id : Nat) :
    s.ReturnedCompleted id ↔ phase.owner? = some id := by
  constructor
  · rintro ⟨token, launch, returned⟩
    obtain ⟨caller, returned, fits⟩ := coherent.result_fits returned
    rcases fits.returned returned with ⟨_, _, _, other, _⟩ | ⟨role, _⟩ | ⟨_, other⟩
    · exact absurd rfl (other token launch)
    · exact Phase.role_completed role
    · contradiction
  · intro owner
    have role : phase.role id = .completed := by
      cases phase <;> simp_all [Phase.owner?, Phase.role]
    obtain ⟨caller, found⟩ := coherent.present id (by simp [role])
    have fits := coherent.fits id caller found
    rw [role] at fits
    cases fits with
    | completed token launch =>
      exact ⟨token, launch, by simp [State.result?, found, Caller.result?]⟩

theorem tornDown_iff (coherent : Coherent env s phase) (id : Nat) :
    s.ReturnedTornDown id ↔ phase.role id = .closed := by
  constructor
  · intro returned
    obtain ⟨caller, returned, fits⟩ := coherent.result_fits returned
    rcases fits.returned returned with ⟨_, _, _, _, other⟩ | ⟨_, _, _, other⟩ | ⟨role, _⟩
    · exact absurd rfl other
    · contradiction
    · exact role
  · intro role
    obtain ⟨caller, found⟩ := coherent.present id (by simp [role])
    have fits := coherent.fits id caller found
    rw [role] at fits
    cases fits with
    | closed => simp [State.ReturnedTornDown, State.result?, found, Caller.result?]

/-- Without a call in progress the environment rests in one of three phases. -/
theorem quiet_phase (coherent : Coherent env s phase) (quiet : s.Quiet) :
    phase = .idle ∨ (∃ owner, phase = .done owner) ∨
      ∃ owner closer, phase = .closed owner closer := by
  have settled (id : Nat) : phase.role id = .bystander ∨ phase.role id = .completed ∨
      phase.role id = .closed := by
    by_cases plays : phase.role id = .bystander
    · exact .inl plays
    · obtain ⟨caller, found⟩ := coherent.present id plays
      have returned := quiet caller (List.mem_of_getElem? found)
      obtain ⟨result, returned⟩ := Option.isSome_iff_exists.mp returned
      have := (coherent.fits id caller found).returned returned
      grind
  cases phase with
  | idle => exact .inl rfl
  | done owner => exact .inr (.inl ⟨owner, rfl⟩)
  | closed owner closer => exact .inr (.inr ⟨owner, closer, rfl⟩)
  | held owner | scheduling owner | scheduled owner | launched owner =>
    have := settled owner
    simp [Phase.role] at this
  | closing owner closer | disposing owner closer =>
    have := settled closer
    simp [Phase.role, coherent.spells.apart rfl rfl] at this

/-- A setup that was turned away came while another was at it, or after one had completed. -/
theorem alreadyInitialized (coherent : Coherent env s phase)
    (returned : s.result? id = some (.setup .alreadyInitialized)) :
    ∃ earlier later, s.log = earlier ++ ⟨id, .guard .tryBegin false⟩ :: later ∧
      ((∃ other, other ≠ id ∧ holds other earlier = true) ∨
        ∃ other, ⟨other, .guard .complete true⟩ ∈ earlier) := by
  obtain ⟨caller, returned, fits⟩ := coherent.result_fits returned
  rcases fits.returned returned with ⟨_, own, _⟩ | ⟨_, _, _, other⟩ | ⟨_, other⟩
  · obtain ⟨earlier, later, equal, nothing⟩ := split_of_deeds (own rfl)
    obtain ⟨before, after, spells, next⟩ := coherent.spells.split earlier _ later equal
    cases next with
    | late busy =>
      refine ⟨earlier, later, equal, ?_⟩
      rcases before.busy_cases busy with ⟨other, holder⟩ | ⟨other, owner⟩
      · have held := (spells.holds_iff other).mpr holder
        refine .inl ⟨other, ?_, held⟩
        rintro rfl
        simp [holds_of_deeds_nil nothing] at held
      · exact .inr ⟨other, (spells.completed_iff other).mpr owner⟩
  · simp at other
  · simp at other

/-- A teardown that found nothing to do came before any setup had completed, or after
another teardown. -/
theorem notSetUp (coherent : Coherent env s phase)
    (returned : s.result? id = some (.teardown .notSetUp)) :
    ∃ earlier later, s.log = earlier ++ ⟨id, .guard .tryTeardown false⟩ :: later ∧
      ((∀ other, ⟨other, .guard .complete true⟩ ∉ earlier) ∨
        ∃ other, ⟨other, .guard .tryTeardown true⟩ ∈ earlier) := by
  obtain ⟨caller, returned, fits⟩ := coherent.result_fits returned
  rcases fits.returned returned with ⟨_, _, own, _⟩ | ⟨_, _, _, other⟩ | ⟨_, other⟩
  · obtain ⟨earlier, later, equal, nothing⟩ := split_of_deeds (own rfl)
    obtain ⟨before, after, spells, next⟩ := coherent.spells.split earlier _ later equal
    cases next with
    | early undone =>
      refine ⟨earlier, later, equal, ?_⟩
      rcases before.undone_cases undone with none | ⟨other, closer⟩
      · refine .inl fun other member => ?_
        have owner := (spells.completed_iff other).mp member
        simp [none] at owner
      · exact .inr ⟨other, (spells.closed_iff other).mpr closer⟩
  · simp at other
  · simp at other

end Coherent

/-- Over a whole run of any concurrent setups and teardowns the token is handed over, the
launch fired and the module disposed of at most once each, at most one call returns that it
completed and at most one that it tore down. The launch comes after the hand-over has
returned, the disposal after the setup that made the hand-over has marked the guard done. -/
theorem once_in_order (env : Environment) (schedule : List Move) :
    let s := execute env schedule initial
    s.log.countP Record.isScheduling ≤ 1 ∧
    s.log.countP Record.isLaunch ≤ 1 ∧
    s.log.countP Record.isDisposal ≤ 1 ∧
    (∀ first second, s.ReturnedCompleted first → s.ReturnedCompleted second → first = second) ∧
    (∀ first second, s.ReturnedTornDown first → s.ReturnedTornDown second → first = second) ∧
    (∀ earlier caller launcher registry token later,
      s.log = earlier ++ ⟨caller, .launched launcher registry token⟩ :: later →
      ⟨caller, .answered (.schedule env.module token)⟩ ∈ earlier) ∧
    (∀ earlier closer module later,
      s.log = earlier ++ ⟨closer, .asked (.dispose module)⟩ :: later →
      ∃ owner token, [⟨owner, .answered (.schedule env.module token)⟩,
        ⟨owner, .guard .complete true⟩].Sublist earlier) := by
  intro s
  obtain ⟨phase, coherent⟩ := execute_coherent env schedule initial .idle (initial_coherent env)
  have spells : Spells env.module s.log phase := coherent.spells
  refine ⟨?_, ?_, ?_, ?_, ?_, ?_, ?_⟩
  · exact spells.countP_scheduling ▸ phase.schedulings_le
  · exact spells.countP_launch ▸ phase.launches_le
  · exact spells.countP_disposal ▸ phase.disposals_le
  · intro first second one two
    have one := (coherent.completed_iff first).mp one
    have two := (coherent.completed_iff second).mp two
    exact Option.some.inj (one.symm.trans two)
  · intro first second one two
    have one := Phase.role_closed ((coherent.tornDown_iff first).mp one)
    have two := Phase.role_closed ((coherent.tornDown_iff second).mp two)
    exact Option.some.inj (one.symm.trans two)
  · intro earlier caller launcher registry token later equal
    obtain ⟨before, after, spells, next⟩ := spells.split earlier _ later equal
    cases next with
    | launch => exact spells.scheduled_mem rfl
  · intro earlier closer module later equal
    obtain ⟨before, after, spells, next⟩ := spells.split earlier _ later equal
    cases next with
    | ask question => simp [isQuestion] at question
    | @dispose owner => exact ⟨owner, spells.owner_sublist rfl⟩

/-- One setup completes beside another that comes late, and is then torn down. -/
example :
    let env : Environment :=
      ⟨.ui, "m", .ofHistory [⟨.native, "process", .process "p"⟩,
        ⟨.native, "application.context", .context ⟨"app", 1⟩⟩], ⟨false, "", 1⟩, .notStarted⟩
    let answer : (request : Request) → request.Answer
      | .parameter .. => "0"
      | .pid _ | .uid _ => 7
      | .delegator _ => none
      | .appContext _ => ⟨"", 0⟩
      | .schedule .. => []
      | .dispose _ => ()
    let go caller := Move.advance caller ⟨answer, 0⟩
    let s := execute env
      ([.enter .setup, .enter .setup, .enter .teardown, go 0, go 1] ++ List.replicate 8 (go 0) ++
        List.replicate 3 (go 2)) initial
    s.guard = .tornDown ∧ [0, 1, 2].map s.result? =
      [some (.setup (.completed ⟨"app@7@7@1"⟩ 0)), some (.setup .alreadyInitialized),
        some (.teardown .tornDown)] := by
  decide +kernel

/-- The guard is in progress exactly while one setup is between its begin and its end, so the
end of a setup never finds it otherwise. Whoever is turned away had a reason, and when all
calls have returned the guard shows what they returned. -/
theorem exclusive_ownership (env : Environment) (schedule : List Move) :
    let s := execute env schedule initial
    (s.guard = .inProgress ↔ ∃ owner, ∀ caller, holds caller s.log = true ↔ caller = owner) ∧
    (s.guard ≠ .inProgress → ∀ caller, holds caller s.log = false) ∧
    (∀ caller op changed, op = .complete ∨ op = .abort →
      ⟨caller, .guard op changed⟩ ∈ s.log → changed = true) ∧
    (∀ caller, s.result? caller = some (.setup .alreadyInitialized) →
      ∃ earlier later, s.log = earlier ++ ⟨caller, .guard .tryBegin false⟩ :: later ∧
        ((∃ other, other ≠ caller ∧ holds other earlier = true) ∨
          ∃ other, ⟨other, .guard .complete true⟩ ∈ earlier)) ∧
    (∀ caller, s.result? caller = some (.teardown .notSetUp) →
      ∃ earlier later, s.log = earlier ++ ⟨caller, .guard .tryTeardown false⟩ :: later ∧
        ((∀ other, ⟨other, .guard .complete true⟩ ∉ earlier) ∨
          ∃ other, ⟨other, .guard .tryTeardown true⟩ ∈ earlier)) ∧
    (s.Quiet →
      ((∀ caller, ¬ s.ReturnedCompleted caller) → s.guard = .notStarted) ∧
      ((∃ caller, s.ReturnedCompleted caller) → (∀ caller, ¬ s.ReturnedTornDown caller) →
        s.guard = .done) ∧
      ((∃ caller, s.ReturnedTornDown caller) → s.guard = .tornDown)) := by
  intro s
  obtain ⟨phase, coherent⟩ := execute_coherent env schedule initial .idle (initial_coherent env)
  have spells : Spells env.module s.log phase := coherent.spells
  have guard : s.guard = phase.guard := coherent.guard
  refine ⟨?_, ?_, ?_, ?_, ?_, ?_⟩
  · rw [guard, phase.guard_inProgress]
    constructor
    · rintro ⟨owner, holder⟩
      refine ⟨owner, fun caller => ?_⟩
      rw [spells.holds_iff, holder, Option.some.injEq, eq_comm]
    · rintro ⟨owner, unique⟩
      exact ⟨owner, (spells.holds_iff owner).mp ((unique owner).mpr rfl)⟩
  · intro idle caller
    rw [guard, ne_eq, phase.guard_inProgress] at idle
    exact Bool.eq_false_iff.mpr fun held => idle ⟨caller, (spells.holds_iff caller).mp held⟩
  · intro caller op changed ended member
    exact spells.end_changed ended member
  · exact fun caller => coherent.alreadyInitialized
  · exact fun caller => coherent.notSetUp
  · intro quiet
    have completed := coherent.completed_iff
    have tornDown := coherent.tornDown_iff
    rw [guard]
    rcases coherent.quiet_phase quiet with rfl | ⟨owner, rfl⟩ | ⟨owner, closer, rfl⟩
    · refine ⟨fun _ => rfl, ?_, ?_⟩
      · rintro ⟨caller, returned⟩
        nomatch (completed caller).mp returned
      · rintro ⟨caller, returned⟩
        nomatch (tornDown caller).mp returned
    · refine ⟨fun none => absurd ((completed owner).mpr rfl) (none owner), fun _ _ => rfl, ?_⟩
      rintro ⟨caller, returned⟩
      nomatch Phase.role_closed ((tornDown caller).mp returned)
    · have closed : s.ReturnedTornDown closer :=
        (tornDown closer).mpr (by simp [Phase.role, spells.apart rfl rfl])
      exact ⟨fun none => absurd ((completed owner).mpr rfl) (none owner),
        fun _ none => absurd closed (none closer), fun _ => rfl⟩

end Rendezvous.Interleaving

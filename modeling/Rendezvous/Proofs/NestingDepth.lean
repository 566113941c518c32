import Rendezvous.Proofs.AttemptShape
import Rendezvous.Proofs.Reentry

/-! The bound on nested callbacks is never reached. A callback runs while its setup holds a
guard, so each level leaves one family fewer whose setup can begin; once there is none, calls
are turned away and no module is called. Calls therefore obey the equation that they would
obey without any bound. -/
namespace Rendezvous.Session

section Callbacks

variable (host : Host σ) (inRuntime : Bool) {background : Session σ τ → Session σ τ}
  {callback₁ callback₂ : Family → Call → Session σ τ → Session σ τ} {held : Session σ τ → Prop}

/-- Two ways to make the module's calls that agree wherever they are tried. -/
structure Agree (callback₁ callback₂ : Family → Call → Session σ τ → Session σ τ)
    (held : Session σ τ → Prop) : Prop where
  same : ∀ family call session, held session →
    callback₁ family call session = callback₂ family call session
  keeps : ∀ family call session, Keeps session (callback₂ family call session)
  kept : ∀ before after, Keeps before after → held before → held after

theorem reenter_agree (agree : Agree callback₁ callback₂ held) (calls : List (Family × Call))
    (session : Session σ τ) (holds : held session) :
    reenter callback₁ calls session = reenter callback₂ calls session := by
  induction calls generalizing session with
  | nil => rfl
  | cons call rest ih =>
    have first := agree.same call.1 call.2 session holds
    have after := agree.kept _ _ (agree.keeps call.1 call.2 session) holds
    simp only [reenter, List.foldl_cons, first]
    exact ih _ after

/-- An attempt calls its module only while what holds at its start still does. -/
theorem attempt_agree (still : ∀ session, (background session).hooks = session.hooks)
    (agree : Agree callback₁ callback₂ held) (family : Family) {env : Environment}
    {attempt : Program SetupOutcome} (connects : env.Connects attempt) (session : Session σ τ)
    (holds : held session) :
    attempt.run (fun action session =>
        perform host inRuntime callback₁ family action (background session)) session =
      attempt.run (fun action session =>
        perform host inRuntime callback₂ family action (background session)) session := by
  have rests (session : Session σ τ) (requests : List Request) (holds : held session) :
      held ((background session).asked host requests) :=
    agree.kept _ _ (.of_hooks (still session)) holds
  induction connects generalizing session with
  | giveUp => rfl
  | @ask request next question _ ih =>
    have plain (module : Handle) (token : Token) : request ≠ .schedule module token := by
      rintro rfl
      contradiction
    simp only [Program.run_act, perform_ask _ _ _ _ _ _ plain]
    exact ih _ _ (rests session [request] holds)
  | handOver token =>
    have called := reenter_agree agree
      (host.reply (background session).outside.memory [] (.schedule env.module token))
      _ (rests session [.schedule env.module token] holds)
    simp only [Program.run_act, perform_schedule, called]
    rfl

/-- The session while a setup of the family holds its guard: it keeps what was barred. -/
def HeldSince (family : Family) (session later : Session σ τ) : Prop :=
  ∀ other, other = family ∨ session.Barred other → later.Barred other

theorem begun_held (family : Family) (env : Environment) (session : Session σ τ) :
    HeldSince family session (session.begun family env) := by
  intro other either busy loaded
  by_cases own : other = family
  · subst own
    obtain rfl : _ = busy := by simpa [begun] using loaded
    rfl
  · have elsewhere := either.resolve_left own
    rw [begun, ByFamily.get_set_other own] at loaded
    exact elsewhere busy loaded

/-- A call depends on its callbacks only while its setup holds the guard. -/
theorem callWith_agree (still : ∀ session, (background session).hooks = session.hooks)
    (family : Family) (call : Call) (session : Session σ τ)
    (agree : Agree callback₁ callback₂ (HeldSince family session)) :
    callWith host inRuntime background callback₁ family call session =
      callWith host inRuntime background callback₂ family call session := by
  unfold callWith
  cases loaded : session.hooks.get family with
  | none => rfl
  | some env =>
    have kept : (background session).hooks.get family = some env := by rw [still, loaded]
    have guard (op : GuardOp) (session : Session σ τ) :
        perform host inRuntime callback₁ family (.guard op) session =
          perform host inRuntime callback₂ family (.guard op) session := rfl
    cases call with
    | state => rfl
    | teardown =>
      simp only [Environment.teardown, Program.guard]
      rw [Program.run_perform, Program.run_perform, guard]
      cases (perform host inRuntime callback₂ family (.guard .tryTeardown) (background session)).1
        <;> rfl
    | setup =>
      simp only [Environment.setup, Program.guard]
      rw [Program.run_perform, Program.run_perform, guard]
      by_cases fresh : env.state = .notStarted
      · rw [perform_tryBegin _ _ _ _ kept fresh]
        have held : HeldSince family session ((background session).begun family env) := by
          have begun := begun_held family env (background session)
          simpa only [HeldSince, Barred, still] using begun
        have attempted :=
          attempt_agree host inRuntime still agree family env.attempt_connects _ held
        have whole := Program.run_bind_congr attempted
          (f := Environment.conclude) fun outcome session => rfl
        exact congrArg (fun answer : SetupOutcome × Session σ τ =>
          (CallResult.setup answer.1, answer.2)) whole
      · rw [perform_guard_foreign host inRuntime _ _ kept .tryBegin fresh]
        rfl

end Callbacks

section Depth

variable (host : Host σ) (inRuntime : Bool) {background : Session σ τ → Session σ τ}

/-- A call on a family whose setup cannot begin calls nobody back. -/
theorem callWith_barred (still : ∀ session, (background session).hooks = session.hooks)
    (callback₁ callback₂ : Family → Call → Session σ τ → Session σ τ) {family : Family}
    {session : Session σ τ} (barred : session.Barred family) (call : Call) :
    callWith host inRuntime background callback₁ family call session =
      callWith host inRuntime background callback₂ family call session := by
  cases loaded : session.hooks.get family with
  | none => simp [callWith, loaded]
  | some env =>
    have busy : env.state = .inProgress := barred env loaded
    cases call with
    | setup =>
      rw [callWith_setup_late host _ _ still callback₁ loaded (by simp [busy]),
        callWith_setup_late host _ _ still callback₂ loaded (by simp [busy])]
    | teardown =>
      rw [callWith_teardown_early host _ _ still callback₁ loaded (by simp [busy]),
        callWith_teardown_early host _ _ still callback₂ loaded (by simp [busy])]
    | state => simp [callWith, loaded]

/-- One more level makes no difference where there are as many levels as setups can begin. -/
theorem callWithin_enough (still : ∀ session, (background session).hooks = session.hooks)
    (depth : Nat) (families : List Family) (room : families.length ≤ depth) (family : Family)
    (call : Call) (session : Session σ τ)
    (barred : ∀ other, other ∉ families → session.Barred other) :
    callWithin host inRuntime background (depth + 1) family call session =
      callWithin host inRuntime background depth family call session := by
  induction depth generalizing families family call session with
  | zero =>
    obtain rfl : families = [] := List.eq_nil_of_length_eq_zero (Nat.le_zero.mp room)
    exact callWith_barred host inRuntime still _ _ (barred family List.not_mem_nil) call
  | succ depth ih =>
    by_cases free : family ∈ families
    · have fewer : (families.erase family).length ≤ depth := by
        rw [List.length_erase_of_mem free]
        omega
      refine callWith_agree host inRuntime still family call session ⟨?_, ?_, ?_⟩
      · intro target called later held
        have nested := ih (families.erase family) fewer target called later ?_
        · change reentrant host inRuntime background (depth + 1) target called later =
            reentrant host inRuntime background depth target called later
          rw [reentrant, reentrant, nested]
        · intro other absent
          refine held other ?_
          by_cases own : other = family
          · exact .inl own
          · exact .inr (barred other fun member => absent ((List.mem_erase_of_ne own).mpr member))
      · exact reentrant_keeps still depth
      · intro before after keeps held other either
        exact (keeps other).barred (held other either)
    · exact callWith_barred host inRuntime still _ _ (barred family free) call

/-- A call obeys its own equation: its callbacks are such calls, put on record. -/
theorem callAmid_eq (still : ∀ session, (background session).hooks = session.hooks) :
    callAmid host inRuntime background =
      callWith host inRuntime background fun family call session =>
        let (result, session) := callAmid host inRuntime background family call session
        { session with outside := session.outside.record (.reentrant family call result) } := by
  funext family call session
  exact (callWithin_enough host inRuntime still Family.all.length Family.all (Nat.le_refl _)
    family call session fun other absent => absurd (Family.mem_all other) absent).symm

end Depth

end Rendezvous.Session

import Mathlib.Data.List.Perm.Subperm
import Rendezvous.Proofs.CallStackSteps

/-! Calls end, whatever modules call from inside their callbacks and whatever goes on between
the steps. A setup that hands its token over holds a guard while its module calls back, and
gives it back only after; so at most two setups hold guards at once, and each callback leaves
fewer guards to take than its caller found. -/
namespace Rendezvous.CallStack

open Interleaving (concluding program program_setup program_teardown)

/-- The machine after some steps, with what goes on before each of them. -/
def turns (host : Host σ) (executor : Executor τ) :
    (world : Nat → List (Aside σ)) → Nat → Machine σ τ → Machine σ τ
  | _, 0, m => m
  | world, n + 1, m =>
    turns host executor (fun k => world (k + 1)) n
      ((asides host executor (world 0) m).advance host)

/-- Some step leads to the goal, whatever goes on before each step. -/
inductive Inevitable (host : Host σ) (executor : Executor τ) (goal : Machine σ τ → Prop) :
    Machine σ τ → Prop where
  | now (there : goal m) : Inevitable host executor goal m
  | later (step : ∀ events, Inevitable host executor goal
      ((asides host executor events m).advance host)) : Inevitable host executor goal m

namespace Inevitable

variable {host : Host σ} {executor : Executor τ} {goal next : Machine σ τ → Prop}
  {m : Machine σ τ}

theorem bind (inevitable : Inevitable host executor goal m)
    (go : ∀ m, goal m → Inevitable host executor next m) : Inevitable host executor next m := by
  induction inevitable with
  | now there => exact go _ there
  | later _ ih => exact .later ih

theorem turns (inevitable : Inevitable host executor goal m) (world : Nat → List (Aside σ)) :
    ∃ n, goal (turns host executor world n m) := by
  induction inevitable generalizing world with
  | now there => exact ⟨0, there⟩
  | later _ ih =>
    obtain ⟨n, there⟩ := ih (world 0) fun k => world (k + 1)
    exact ⟨n + 1, there⟩

end Inevitable

/-- A machine that comes up in a session. -/
def Sound (hooks : Hooks) (m : Machine σ τ) : Prop := ∃ standings, Coherent hooks m standings

theorem Sound.asides {m : Machine σ τ} (sound : Sound hooks m) (fresh : hooks.Fresh) (host : Host σ)
    (executor : Executor τ) (events : List (Aside σ)) :
    Sound hooks (asides host executor events m) := by
  induction events generalizing m with
  | nil => exact sound
  | cons event events ih =>
    obtain ⟨standings, coherent⟩ := sound
    exact ih (coherent.aside fresh host executor event)

theorem Sound.advance {m : Machine σ τ} (sound : Sound hooks m) (fresh : hooks.Fresh)
    (host : Host σ) : Sound hooks (m.advance host) := by
  obtain ⟨standings, coherent⟩ := sound
  exact coherent.advance fresh host

/-- No more setups are under way than there are families. -/
theorem Sound.depth {m : Machine σ τ} (sound : Sound hooks m) :
    (holders m.stack).Nodup ∧ (holders m.stack).length ≤ 2 := by
  obtain ⟨standings, coherent⟩ := sound
  have distinct := coherent.stacked.apart
  exact ⟨distinct, (List.subperm_of_subset distinct fun family _ => family.mem_all).length_le⟩

section Return

variable {hooks : Hooks} (fresh : hooks.Fresh) (host : Host σ) (executor : Executor τ)
  {m : Machine σ τ} {frame : Frame} {below : List Frame}

/-- The calls above these have returned. -/
def Back (hooks : Hooks) (below : List Frame) (m : Machine σ τ) : Prop :=
  m.stack = below ∧ Sound hooks m

include fresh

theorem step_back (sound : Sound hooks m) (stacked : m.stack = frame :: below)
    (step : ∀ m : Machine σ τ, Sound hooks m → m.stack = frame :: below →
      Sound hooks (m.advance host) → Inevitable host executor goal (m.advance host)) :
    Inevitable host executor goal m := by
  refine .later fun events => ?_
  have sound := sound.asides fresh host executor events
  exact step _ sound ((asides_beside ..).stack.trans stacked) (sound.advance fresh host)

theorem finish_back (sound : Sound hooks m)
    (stacked : m.stack = ⟨family, call, inRuntime, begun, [], .finish result⟩ :: below) :
    Inevitable host executor (Back hooks below) m := by
  refine step_back fresh host executor sound stacked fun m _ stacked sound => ?_
  rw [advance_finish stacked rfl rfl] at sound ⊢
  exact .now ⟨rfl, sound⟩

theorem act_back {action : Action} {next : action.Answer → Program CallResult}
    (sound : Sound hooks m)
    (stacked : m.stack = ⟨family, call, inRuntime, begun, [], .act action next⟩ :: below)
    (go : ∀ (m : Machine σ τ) answer, Sound hooks m →
      m.stack = ⟨family, call, inRuntime, begun || begins action answer,
        callbacks action answer, next answer⟩ :: below →
      Inevitable host executor goal m) : Inevitable host executor goal m := by
  refine step_back fresh host executor sound stacked fun m _ stacked sound => ?_
  rw [advance_act stacked rfl rfl] at sound ⊢
  exact go _ _ sound rfl

/-- A setup whose module calls back returns, if the calls of the module do. -/
theorem handed_back {launcher : Launcher} {registry : Option Handle} {token : Token}
    (inner : ∀ (m : Machine σ τ) (arrived now : Frame), now.begun = true →
      Sound hooks m → m.stack = arrived :: now :: below →
      Inevitable host executor (Back hooks (now :: below)) m)
    (pending : List (Family × Call)) (sound : Sound hooks m)
    (stacked : m.stack = ⟨family, call, inRuntime, true, pending,
      concluding (.act (.launch launcher registry token)
        fun launch => .finish (.completed token launch))⟩ :: below) :
    Inevitable host executor (Back hooks below) m := by
  induction pending generalizing m with
  | nil =>
    rw [Interleaving.concluding_act] at stacked
    refine act_back fresh host executor sound stacked fun m launch sound stacked => ?_
    rw [Interleaving.concluding_finish] at stacked
    refine act_back fresh host executor sound stacked fun m marked sound stacked => ?_
    exact finish_back fresh host executor sound stacked
  | cons called pending ih =>
    refine step_back fresh host executor sound stacked fun m _ stacked sound => ?_
    rw [advance_call stacked rfl] at sound ⊢
    refine (inner _ _ _ rfl sound rfl).bind fun m back => ?_
    exact ih back.2 back.1

theorem attempting_back {env : Environment} {attempt : Program SetupOutcome}
    (inner : ∀ (m : Machine σ τ) (arrived now : Frame), now.begun = true →
      Sound hooks m → m.stack = arrived :: now :: below →
      Inevitable host executor (Back hooks (now :: below)) m)
    (connects : env.Connects attempt) (sound : Sound hooks m)
    (stacked : m.stack = ⟨family, call, inRuntime, true, [], concluding attempt⟩ :: below) :
    Inevitable host executor (Back hooks below) m := by
  induction connects generalizing m with
  | giveUp =>
    rw [Interleaving.concluding_finish] at stacked
    refine act_back fresh host executor sound stacked fun m aborted sound stacked => ?_
    exact finish_back fresh host executor sound stacked
  | @ask request next question _ ih =>
    rw [Interleaving.concluding_act] at stacked
    refine act_back fresh host executor sound stacked fun m answer sound stacked => ?_
    have plain : callbacks (.ask request) answer = [] := by
      cases request <;> simp_all [Interleaving.isQuestion, callbacks]
    rw [plain] at stacked
    exact ih answer sound stacked
  | handOver token =>
    rw [Interleaving.concluding_act] at stacked
    refine act_back fresh host executor sound stacked fun m calls sound stacked => ?_
    exact handed_back fresh host executor inner _ sound stacked

theorem coming_back {env : Environment}
    (inner : ∀ (m : Machine σ τ) (arrived now : Frame), now.begun = true →
      Sound hooks m → m.stack = arrived :: now :: below →
      Inevitable host executor (Back hooks (now :: below)) m)
    (guard : SetupState) (call : Call) (sound : Sound hooks m)
    (stacked : m.stack = ⟨family, call, inRuntime, false, [], program env guard call⟩ :: below) :
    Inevitable host executor (Back hooks below) m := by
  cases call with
  | setup =>
    rw [program_setup] at stacked
    refine act_back fresh host executor sound stacked fun m began sound stacked => ?_
    cases began with
    | false => exact finish_back fresh host executor sound stacked
    | true =>
      exact attempting_back fresh host executor inner env.attempt_connects sound stacked
  | teardown =>
    rw [program_teardown] at stacked
    refine act_back fresh host executor sound stacked fun m closing sound stacked => ?_
    cases closing with
    | false => exact finish_back fresh host executor sound stacked
    | true =>
      refine act_back fresh host executor sound stacked fun m _ sound stacked => ?_
      exact finish_back fresh host executor sound stacked
  | state => exact finish_back fresh host executor sound stacked

/-- Every call returns. The induction is on the guards that the calls below leave to take. -/
theorem call_back (sound : Sound hooks m) (stacked : m.stack = frame :: below) :
    Inevitable host executor (Back hooks below) m := by
  induction room : 2 - (holders below).length using Nat.strongRecOn
    generalizing m frame below with
  | ind room ih =>
    subst room
    have inner (m : Machine σ τ) (arrived now : Frame) (begun : now.begun = true)
        (sound : Sound hooks m) (stacked : m.stack = arrived :: now :: below) :
        Inevitable host executor (Back hooks (now :: below)) m := by
      have depth := sound.depth.2
      have deeper := (holders_sublist arrived (now :: below)).length_le
      rw [stacked] at depth
      refine ih _ ?_ sound stacked rfl
      rw [holders_begun begun, List.length_cons] at deeper ⊢
      omega
    obtain ⟨standings, coherent⟩ := sound
    have fits := coherent.stacked.fits frame below stacked
    have sound : Sound hooks m := ⟨standings, coherent⟩
    generalize hooks.get frame.family = loaded at fits
    generalize standings.get frame.family = standing at fits
    cases fits with
    | answered | marked => exact finish_back fresh host executor sound stacked
    | coming guard call => exact coming_back fresh host executor inner guard call sound stacked
    | attempting connects =>
      exact attempting_back fresh host executor inner connects sound stacked
    | handed pending => exact handed_back fresh host executor inner pending sound stacked
    | firing | closing =>
      refine act_back fresh host executor sound stacked fun m _ sound stacked => ?_
      exact finish_back fresh host executor sound stacked

/-- In the end nothing is under way. -/
theorem quiet_inevitable (sound : Sound hooks m) :
    Inevitable host executor (Back hooks []) m := by
  induction stacked : m.stack generalizing m with
  | nil => exact .now ⟨stacked, sound⟩
  | cons frame below ih =>
    refine (call_back fresh host executor sound stacked).bind fun m back => ?_
    exact ih back.2 back.1

end Return

end Rendezvous.CallStack

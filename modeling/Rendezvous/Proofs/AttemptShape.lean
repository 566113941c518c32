import Rendezvous.Proofs.InterleavingCourse

/-! The shape of an attempt. Whatever the host answers, an attempt asks questions and then
either comes back without a connection or hands over one token, fires one launch with it and
reports both. -/
namespace Rendezvous.Environment

open Interleaving (isQuestion)

/-- What is left of an attempt on an environment. -/
inductive Connects (env : Environment) : Program SetupOutcome → Prop where
  | giveUp (incomplete : outcome.isCompleted = false) (admitted : outcome ≠ .alreadyInitialized) :
      Connects env (.finish outcome)
  | ask {request : Request} {next : request.Answer → Program SetupOutcome}
      (question : isQuestion request = true) (rest : ∀ answer, Connects env (next answer)) :
      Connects env (.act (.ask request) next)
  | handOver (token : Token) : Connects env (.act (.ask (.schedule env.module token)) fun _ =>
      .act (.launch env.launcher env.resolver.registry token) fun launch =>
        .finish (.completed token launch))

theorem connect_connects (env : Environment) (process : Handle) (context : AppContext) :
    Connects env (env.connect process env.resolver.registry context) :=
  .ask rfl fun _ => .ask rfl fun _ => .handOver _

theorem connectAlone_connects (env : Environment) (process : Handle) :
    Connects env (env.connectAlone process env.resolver.registry) := by
  unfold connectAlone
  split
  · exact connect_connects ..
  · exact .giveUp rfl (by simp)

theorem identify_connects (env : Environment) : Connects env env.identify := by
  have alone := connectAlone_connects env
  unfold identify
  split
  · exact .giveUp rfl (by simp)
  · rename_i process _
    cases registry : env.resolver.registry with
    | none => simpa only [registry] using alone process
    | some offering =>
      rw [registry] at alone
      refine .ask rfl fun offer => ?_
      cases offer with
      | none => exact alone process
      | some delegator =>
        refine .ask rfl fun context => ?_
        have connected := connect_connects env process context
        rw [registry] at connected
        exact connected

theorem attempt_connects (env : Environment) : Connects env env.attempt := by
  unfold attempt
  split
  · split
    · exact .giveUp rfl (by simp)
    · refine .ask rfl fun mode => ?_
      by_cases enabled : mode = testModeEnabled
      · simpa [Program.bind, enabled] using identify_connects env
      · simpa [Program.bind, enabled] using .giveUp rfl (by simp)
  · exact identify_connects env

end Rendezvous.Environment

import Rendezvous.Guard
import Rendezvous.Host

/-! Calls on an environment as programs: trees of indivisible actions, each followed by
whatever its answer decides. The same tree is run at once by a session and step by step by
interleaved callers, so there is one definition of what a setup does. -/
namespace Rendezvous

/-- Starts the daemon of one family, within a number of seconds. -/
structure Launcher where
  family : Family
  timeoutUnits : UInt32
  deriving DecidableEq, Repr

inductive Action where
  /-- One operation on the environment's own guard. -/
  | guard (op : GuardOp)
  /-- One call into the host. -/
  | ask (request : Request)
  /-- Fire the launch; without a registry it is skipped. -/
  | launch (launcher : Launcher) (registry : Option Handle) (token : Token)

/-- A launch is known by its number. -/
abbrev LaunchId := Nat

abbrev Action.Answer : Action → Type
  | .guard _ => Bool
  | .ask request => request.Answer
  | .launch .. => LaunchId

inductive Program (α : Type) where
  | finish (result : α)
  | act (action : Action) (next : action.Answer → Program α)

namespace Program

def bind : Program α → (α → Program β) → Program β
  | .finish result, f => f result
  | .act action next, f => .act action fun answer => (next answer).bind f

instance : Monad Program where
  pure := .finish
  bind := bind

def perform (action : Action) : Program action.Answer := .act action .finish

def guard (op : GuardOp) : Program Bool := perform (.guard op)

def ask (request : Request) : Program request.Answer := perform (.ask request)

/-- Runs a program to its end, each action answered by `perform`. -/
def run (perform : (action : Action) → σ → action.Answer × σ) : Program α → σ → α × σ
  | .finish result, s => (result, s)
  | .act action next, s =>
    let (answer, s) := perform action s
    (next answer).run perform s

@[simp] theorem run_finish (perform : (action : Action) → σ → action.Answer × σ) (result : α)
    (s : σ) : (Program.finish result).run perform s = (result, s) := rfl

@[simp] theorem run_pure (perform : (action : Action) → σ → action.Answer × σ) (result : α)
    (s : σ) : (pure result : Program α).run perform s = (result, s) := rfl

@[simp] theorem run_act (perform : (action : Action) → σ → action.Answer × σ) (action : Action)
    (next : action.Answer → Program α) (s : σ) :
    (Program.act action next).run perform s =
      (next (perform action s).1).run perform (perform action s).2 := rfl

theorem run_perform (perform : (action : Action) → σ → action.Answer × σ) (action : Action)
    (next : action.Answer → Program α) (s : σ) :
    (Program.perform action >>= next).run perform s =
      (next (perform action s).1).run perform (perform action s).2 := rfl

theorem run_bind (perform : (action : Action) → σ → action.Answer × σ) (program : Program α)
    (f : α → Program β) (s : σ) :
    (program.bind f).run perform s =
      (f (program.run perform s).1).run perform (program.run perform s).2 := by
  induction program generalizing s with
  | finish result => rfl
  | act action next ih => simp [bind, ih]

theorem run_bind_congr {perform₁ perform₂ : (action : Action) → σ → action.Answer × σ}
    {program : Program α} {f : α → Program β} {s : σ}
    (first : program.run perform₁ s = program.run perform₂ s)
    (rest : ∀ a s, (f a).run perform₁ s = (f a).run perform₂ s) :
    (program.bind f).run perform₁ s = (program.bind f).run perform₂ s := by
  rw [run_bind, run_bind, first, rest]

/-- Whatever holds between the states around each action, and chains, holds around a run. -/
theorem run_chains {related : σ → σ → Prop} (refl : ∀ s, related s s)
    (trans : ∀ s₁ s₂ s₃, related s₁ s₂ → related s₂ s₃ → related s₁ s₃)
    {perform : (action : Action) → σ → action.Answer × σ}
    (step : ∀ action s, related s (perform action s).2) (program : Program α) (s : σ) :
    related s (program.run perform s).2 := by
  induction program generalizing s with
  | finish result => exact refl s
  | act action next ih => exact trans _ _ _ (step action s) (ih _ _)

end Program
end Rendezvous

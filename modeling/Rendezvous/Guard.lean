/-! The setup guard: one cell that admits a single setup and, after it, a single teardown.
Each operation is one compare-and-set, so the whole guard is a table of source and target. -/
namespace Rendezvous

inductive SetupState where
  | notStarted
  | inProgress
  | done
  | tornDown
  deriving DecidableEq, Repr, Inhabited

inductive GuardOp where
  | tryBegin
  | complete
  | abort
  | tryTeardown
  deriving DecidableEq, Repr, Inhabited

namespace GuardOp

/-- The only state in which the operation changes anything. -/
def source : GuardOp → SetupState
  | .tryBegin => .notStarted
  | .complete => .inProgress
  | .abort => .inProgress
  | .tryTeardown => .done

def target : GuardOp → SetupState
  | .tryBegin => .inProgress
  | .complete => .done
  | .abort => .notStarted
  | .tryTeardown => .tornDown

end GuardOp

namespace SetupState

/-- Compare-and-set: whether the operation found its source, and the state after it. -/
def apply (op : GuardOp) (state : SetupState) : Bool × SetupState :=
  if state = op.source then (true, op.target) else (false, state)

def debugText : SetupState → String
  | .notStarted => "NotStarted"
  | .inProgress => "InProgress"
  | .done => "Done"
  | .tornDown => "TornDown"

@[simp] theorem apply_source (op : GuardOp) : apply op op.source = (true, op.target) := by
  simp [apply]

@[simp] theorem apply_fst {op : GuardOp} {state : SetupState} :
    (apply op state).1 = true ↔ state = op.source := by
  unfold apply; split <;> simp_all

/-- No operation leads out of the last state. -/
@[simp] theorem apply_tornDown (op : GuardOp) : apply op .tornDown = (false, .tornDown) := by
  cases op <;> rfl

end SetupState
end Rendezvous

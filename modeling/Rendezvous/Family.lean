import Rendezvous.Token

/-! The two daemon families and the words each of them fixes: the tool that starts the
daemon, the name under which its client module is registered, and the default bound on
the start command. -/
namespace Rendezvous

inductive Family where
  | ui
  | perf
  deriving DecidableEq, Repr, Inhabited

namespace Family

/-- Both families, in the order in which a session loads them. -/
def all : List Family := [.ui, .perf]

def tool : Family → String
  | .ui => "uitest"
  | .perf => "perftest"

def moduleName : Family → String
  | .ui => "uitest"
  | .perf => "test.PerfTest"

/-- Seconds granted to the start command unless the configuration says otherwise. -/
def defaultTimeout : Family → UInt32
  | .ui => 1
  | .perf => 3

/-- Name of the family in debug text. -/
def debugText : Family → String
  | .ui => "UiTest"
  | .perf => "PerfTest"

/-- `tool start-daemon token`, the token pasted as it is. -/
def startCommand (family : Family) (token : Token) : String :=
  family.tool ++ " start-daemon " ++ token.text

@[simp] theorem mem_all (family : Family) : family ∈ all := by cases family <;> simp [all]

end Family
end Rendezvous

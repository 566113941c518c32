import Rendezvous.Family
import Rendezvous.Text.Quoted

/-! The configuration and its defaults, and the settings that one family's setup takes
from it. -/
namespace Rendezvous

structure BootstrapConfig where
  /-- Refuse to set up unless the test-mode parameter reads `1`. -/
  requireTestMode : Bool := true
  /-- The system parameter that holds the test-mode flag. -/
  testModeParameter : String := "persist.ace.testmode.enabled"
  uiTimeout : UInt32 := Family.defaultTimeout .ui
  perfTimeout : UInt32 := Family.defaultTimeout .perf
  deriving DecidableEq, Repr, Inhabited

def BootstrapConfig.timeout (config : BootstrapConfig) : Family → UInt32
  | .ui => config.uiTimeout
  | .perf => config.perfTimeout

/-- The identity that the local host reports for its application. -/
structure ApplicationConfig where
  name : String := "testkit"
  area : UInt32 := 1
  deriving DecidableEq, Repr, Inhabited

def ApplicationConfig.context (config : ApplicationConfig) : AppContext :=
  ⟨config.name, config.area⟩

structure CoverageConfig where
  /-- Characters per report line. -/
  chunkLength : UInt64 := 500
  deriving DecidableEq, Repr, Inhabited

structure Config where
  bootstrap : BootstrapConfig := {}
  application : ApplicationConfig := {}
  /-- System parameters by name, no name twice. -/
  parameters : List (String × String) := []
  coverage : CoverageConfig := {}
  deriving DecidableEq, Repr, Inhabited

structure Settings where
  requireTestMode : Bool
  testModeParameter : String
  timeoutUnits : UInt32
  deriving DecidableEq, Repr, Inhabited

namespace Settings

def ofConfig (config : BootstrapConfig) (family : Family) : Settings :=
  ⟨config.requireTestMode, config.testModeParameter, config.timeout family⟩

def forFamily (family : Family) : Settings := ofConfig {} family

def debugText (settings : Settings) : String :=
  "BootstrapSettings \x7b require_test_mode: " ++
    (if settings.requireTestMode then "true" else "false") ++
    ", test_mode_parameter: " ++ Text.Quoted.quote settings.testModeParameter ++
    ", timeout_units: " ++ decimal settings.timeoutUnits.toNat ++ " \x7d"

@[simp] theorem ofConfig_timeoutUnits (config : BootstrapConfig) (family : Family) :
    (ofConfig config family).timeoutUnits = config.timeout family := rfl

@[simp] theorem forFamily_timeoutUnits (family : Family) :
    (forFamily family).timeoutUnits = family.defaultTimeout := by cases family <;> rfl

end Settings
end Rendezvous

import Rendezvous.Token
import Rendezvous.Text.Quoted

/-! Capabilities: what a host registers under a name. A handle names an object of the host;
only an application context is carried by value. -/
namespace Rendezvous

/-- The host's own name for one of its objects. -/
abbrev Handle := String

inductive Capability where
  | process (handle : Handle)
  | parameters (handle : Handle)
  | registry (handle : Handle)
  | context (value : AppContext)
  | module (handle : Handle)
  deriving DecidableEq, Repr

/-- `AppContext` in debug text. -/
def AppContext.debugText (context : AppContext) : String :=
  "AppContext \x7b application_name: " ++ Text.Quoted.quote context.applicationName ++
    ", area: " ++ decimal context.area.toNat ++ " \x7d"

namespace Capability

def kind : Capability → String
  | .process _ => "process"
  | .parameters _ => "system-parameters"
  | .registry _ => "delegator-registry"
  | .context _ => "app-context"
  | .module _ => "module"

def debugText : Capability → String
  | .context value => "AppContext(" ++ value.debugText ++ ")"
  | capability => "Capability(" ++ capability.kind ++ ")"

def process? : Capability → Option Handle
  | .process handle => some handle
  | _ => none

def parameters? : Capability → Option Handle
  | .parameters handle => some handle
  | _ => none

def registry? : Capability → Option Handle
  | .registry handle => some handle
  | _ => none

def context? : Capability → Option AppContext
  | .context value => some value
  | _ => none

def module? : Capability → Option Handle
  | .module handle => some handle
  | _ => none

end Capability

/-- The names under which a setup looks for what it needs. -/
inductive WellKnown where
  | process
  | systemParameter
  | delegatorRegistry
  | appContext
  deriving DecidableEq, Repr

def WellKnown.name : WellKnown → String
  | .process => "process"
  | .systemParameter => "systemparameter"
  | .delegatorRegistry => "application.abilityDelegatorRegistry"
  | .appContext => "application.context"

end Rendezvous

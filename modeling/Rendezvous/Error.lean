import Rendezvous.Token
import Rendezvous.Json.Fault

/-! The failures of this library as causes, and the sentence each is reported with. -/
namespace Rendezvous

inductive Error where
  | capabilityUnavailable (name : String)
  | moduleNotLoaded (family : String)
  | timeout (seconds : UInt64)
  | config (detail : String)
  | configParse (detail : String)
  | mockList (detail : String)
  | io (detail : String)
  | fileRead (path detail : String)
  | json (fault : Json.Fault)
  deriving DecidableEq, Repr

def Error.message : Error → String
  | .capabilityUnavailable name =>
    "Capability '" ++ name ++ "' is not available from any provider namespace"
  | .moduleNotLoaded family => "No test module loaded for " ++ family
  | .timeout seconds => "Operation timed out after " ++ decimal seconds.toNat ++ " seconds"
  | .config detail => "Configuration error: " ++ detail
  | .configParse detail => "Invalid configuration file: " ++ detail
  | .mockList detail => "Invalid mock list: " ++ detail
  | .io detail => "IO error: " ++ detail
  | .fileRead path detail => "Failed to read file '" ++ path ++ "': " ++ detail
  | .json fault => "JSON error: " ++ fault.detail

end Rendezvous

/-! Why a JSON text is refused. The three kinds are part of every answer; the wording is
for people. -/
namespace Rendezvous.Json

inductive Fault where
  /-- The text ends inside a value. -/
  | ended (detail : String)
  /-- The text is no JSON, or exceeds a limit. -/
  | malformed (detail : String)
  /-- The value is of another type than the reader asked for. -/
  | mistyped (detail : String)
  deriving DecidableEq, Repr

def Fault.detail : Fault → String
  | .ended detail => detail
  | .malformed detail => detail
  | .mistyped detail => detail

end Rendezvous.Json

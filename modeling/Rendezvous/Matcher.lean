import Rendezvous.Json.Value
import Rendezvous.Pattern

/-! Matchers for the arguments of mocked calls. A stub is stored under a key; the argument of
a call is turned into the key under which a stub is looked up. -/
namespace Rendezvous

inductive Matcher where
  | any
  | anyString
  | anyBoolean
  | anyNumber
  | anyObject
  | anyFunction
  deriving DecidableEq, Repr

def Matcher.text : Matcher → String
  | .any => "<any>"
  | .anyString => "<any String>"
  | .anyBoolean => "<any Boolean>"
  | .anyNumber => "<any Number>"
  | .anyObject => "<any Object>"
  | .anyFunction => "<any Function>"

/-- What a stub is registered with. -/
inductive StubKey where
  | ofMatcher (matcher : Matcher)
  | ofPattern (pattern : Pattern)

/-- The key under which the stub is stored: the name of the matcher or the written pattern. -/
def StubKey.text : StubKey → String
  | .ofMatcher matcher => matcher.text
  | .ofPattern pattern => pattern.text

inductive Argument where
  | string (value : String)
  | boolean (value : Bool)
  | number (value : Float)
  | object (value : Json.Value)
  | function
  | undefined

/-- The matcher that fits the type of an argument. -/
def Argument.matcher? : Argument → Option Matcher
  | .string _ => some .anyString
  | .boolean _ => some .anyBoolean
  | .number _ => some .anyNumber
  | .object _ => some .anyObject
  | .function => some .anyFunction
  | .undefined => none

inductive ReturnKey where
  | ofMatcher (matcher : Matcher)
  /-- Whether a pattern matched. -/
  | matched (found : Bool)

/-- The key for an argument. A stub for anything takes every argument; with a pattern only
strings have a key. -/
def returnKey (argument : Argument) (pattern : Option Pattern) (stub : Option StubKey) :
    Option ReturnKey :=
  match stub, argument, pattern with
  | some (.ofMatcher .any), _, _ => some (.ofMatcher .any)
  | _, .string value, some pattern => some (.matched (pattern.occursIn value))
  | _, _, some _ => none
  | _, argument, none => argument.matcher?.map .ofMatcher

end Rendezvous

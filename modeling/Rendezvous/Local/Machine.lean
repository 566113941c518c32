import Rendezvous.Session
import Rendezvous.Local.Parameters

/-! The local host: capabilities from the operating system and the configuration, with a
module for each family that remembers the token it was handed. -/
namespace Rendezvous.Local

/-- What the local host is made from. -/
structure Machine where
  config : Config
  environ : Variables
  identity : Identity
  /-- The shell that commands are given to, if one was found. -/
  shell : Option String

namespace Machine

def processHandle : Handle := "process"
def parametersHandle : Handle := "parameters"
def registryHandle : Handle := "registry"

/-- Each family has a module of its own. -/
def moduleHandle : Family → Handle
  | .ui => "ui module"
  | .perf => "perf module"

def context (machine : Machine) : AppContext := machine.config.application.context

def registrations (machine : Machine) : List Registration := [
  ⟨.native, WellKnown.process.name, .process processHandle⟩,
  ⟨.native, WellKnown.systemParameter.name, .parameters parametersHandle⟩,
  ⟨.native, WellKnown.delegatorRegistry.name, .registry registryHandle⟩,
  ⟨.native, WellKnown.appContext.name, .context machine.context⟩,
  ⟨.plugin, Family.moduleName .ui, .module (moduleHandle .ui)⟩,
  ⟨.plugin, Family.moduleName .perf, .module (moduleHandle .perf)⟩]

def resolver (machine : Machine) : Resolver := .ofHistory machine.registrations

end Machine

/-- The token that each module was handed last and has not given back. -/
abbrev Tokens := ByFamily (Option Token)

namespace Tokens

def schedule (family : Family) (token : Token) (tokens : Tokens) : Tokens :=
  tokens.set family (some token)

def dispose (family : Family) (tokens : Tokens) : Tokens := tokens.set family none

end Tokens

/-- The family that a module serves. -/
def Machine.family? (module : Handle) : Option Family :=
  Family.all.find? fun family => Machine.moduleHandle family = module

/-- Answers from the machine; only the modules remember anything. -/
def Machine.host (machine : Machine) : Host Tokens where
  answer
    | .parameter _ key default, tokens =>
      (Parameters.get machine.environ machine.config.parameters key default, tokens)
    | .pid _, tokens => (machine.identity.pid, tokens)
    | .uid _, tokens => (machine.identity.uid, tokens)
    | .delegator _, tokens => (machine.shell.map fun _ => 0, tokens)
    | .appContext _, tokens => (machine.context, tokens)
    | .schedule module token, tokens =>
      ([], match Machine.family? module with
        | some family => tokens.schedule family token
        | none => tokens)
    | .dispose module, tokens =>
      ((), match Machine.family? module with
        | some family => tokens.dispose family
        | none => tokens)

end Rendezvous.Local

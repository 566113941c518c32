import Rendezvous.Capability.Tree

/-! Resolution of capability names over three namespaces in fixed order: the native
registry, which knows whole names only, then the plugin tree, then the legacy plugin tree.
The first namespace that knows a name answers for it, whatever the kind of its entry. -/
namespace Rendezvous

inductive Namespace where
  | native
  | plugin
  | legacyPlugin
  deriving DecidableEq, Repr

def Namespace.name : Namespace → String
  | .native => "native"
  | .plugin => "plugin"
  | .legacyPlugin => "legacy-plugin"

/-- One registration: where, under which name, and what. -/
structure Registration where
  target : Namespace
  name : String
  capability : Capability

structure Resolver where
  /-- Latest registration first. -/
  native : List (String × Capability)
  plugin : CapabilityTree
  legacy : CapabilityTree

namespace Resolver

def empty : Resolver := ⟨[], .empty, .empty⟩

def register (resolver : Resolver) (entry : Registration) : Resolver :=
  match entry.target with
  | .native => { resolver with native := (entry.name, entry.capability) :: resolver.native }
  | .plugin => { resolver with plugin := resolver.plugin.insert entry.name entry.capability }
  | .legacyPlugin => { resolver with legacy := resolver.legacy.insert entry.name entry.capability }

/-- The resolver that a history of registrations leads to. -/
def ofHistory (history : List Registration) : Resolver := history.foldl register empty

def resolveWithSource (resolver : Resolver) (name : String) : Option (Namespace × Capability) :=
  match resolver.native.lookup name with
  | some capability => some (.native, capability)
  | none =>
    match resolver.plugin.lookup name with
    | some capability => some (.plugin, capability)
    | none => (resolver.legacy.lookup name).map fun capability => (.legacyPlugin, capability)

def resolve (resolver : Resolver) (name : String) : Option Capability :=
  (resolver.resolveWithSource name).map Prod.snd

/- Each typed question is answered by the winning entry alone: one of another kind is as
good as none. -/

def process (resolver : Resolver) : Option Handle :=
  (resolver.resolve WellKnown.process.name).bind Capability.process?

def parameters (resolver : Resolver) : Option Handle :=
  (resolver.resolve WellKnown.systemParameter.name).bind Capability.parameters?

def registry (resolver : Resolver) : Option Handle :=
  (resolver.resolve WellKnown.delegatorRegistry.name).bind Capability.registry?

def appContext (resolver : Resolver) : Option AppContext :=
  (resolver.resolve WellKnown.appContext.name).bind Capability.context?

def module (resolver : Resolver) (name : String) : Option Handle :=
  (resolver.resolve name).bind Capability.module?

@[simp] theorem ofHistory_nil : ofHistory [] = empty := rfl

theorem ofHistory_append (earlier later : List Registration) :
    ofHistory (earlier ++ later) = later.foldl register (ofHistory earlier) := by
  simp [ofHistory, List.foldl_append]

end Resolver
end Rendezvous

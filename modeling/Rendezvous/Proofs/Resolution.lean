import Rendezvous.Capability.Resolver

/-! Which entry answers for a name: the one in the first namespace that knows it, be it of the
kind that is looked for or not. -/
namespace Rendezvous

/-- The namespaces that are asked before this one. -/
def Namespace.earlier : Namespace → List Namespace
  | .native => []
  | .plugin => [.native]
  | .legacyPlugin => [.native, .plugin]

namespace Resolver

/-- What one namespace alone has under a name. -/
def entry (resolver : Resolver) (source : Namespace) (name : String) : Option Capability :=
  match source with
  | .native => resolver.native.lookup name
  | .plugin => resolver.plugin.lookup name
  | .legacyPlugin => resolver.legacy.lookup name

/-- A namespace answers for the name, as no earlier one knows it. -/
def Wins (resolver : Resolver) (name : String) (source : Namespace) (capability : Capability) :
    Prop :=
  resolver.entry source name = some capability ∧
    ∀ earlier ∈ source.earlier, resolver.entry earlier name = none

theorem resolveWithSource_iff {resolver : Resolver} {name : String} {source : Namespace}
    {capability : Capability} :
    resolver.resolveWithSource name = some (source, capability) ↔
      resolver.Wins name source capability := by
  unfold resolveWithSource
  split
  · rename_i native
    cases source <;> simp [Wins, entry, Namespace.earlier, native]
  · rename_i native
    split
    · rename_i plugin
      cases source <;> simp [Wins, entry, Namespace.earlier, native, plugin]
    · rename_i plugin
      cases source <;> simp [Wins, entry, Namespace.earlier, native, plugin]

theorem resolve_iff {resolver : Resolver} {name : String} {capability : Capability} :
    resolver.resolve name = some capability ↔ ∃ source, resolver.Wins name source capability := by
  simp [resolve, resolveWithSource_iff]

theorem Wins.unique {resolver : Resolver} {source₁ source₂ : Namespace}
    (one : resolver.Wins name source₁ capability₁) (two : resolver.Wins name source₂ capability₂) :
    source₁ = source₂ ∧ capability₁ = capability₂ := by
  have same := (resolveWithSource_iff.mpr one).symm.trans (resolveWithSource_iff.mpr two)
  simpa using same

/-- Something is found just as far as the winning entry is of its kind. -/
def Found (resolver : Resolver) (name : String) (kind : α → Capability) (found : Option α) :
    Prop :=
  ∀ value, found = some value ↔ ∃ source, resolver.Wins name source (kind value)

theorem found_of_bind (resolver : Resolver) (name : String) {kind : α → Capability}
    {value? : Capability → Option α}
    (inverse : ∀ capability value, value? capability = some value ↔ capability = kind value) :
    resolver.Found name kind ((resolver.resolve name).bind value?) := by
  intro value
  simp [Option.bind_eq_some_iff, inverse, resolve_iff]

theorem process_found (resolver : Resolver) :
    resolver.Found WellKnown.process.name .process resolver.process :=
  resolver.found_of_bind _ fun capability value => by
    cases capability <;> simp [Capability.process?]

theorem parameters_found (resolver : Resolver) :
    resolver.Found WellKnown.systemParameter.name .parameters resolver.parameters :=
  resolver.found_of_bind _ fun capability value => by
    cases capability <;> simp [Capability.parameters?]

theorem registry_found (resolver : Resolver) :
    resolver.Found WellKnown.delegatorRegistry.name .registry resolver.registry :=
  resolver.found_of_bind _ fun capability value => by
    cases capability <;> simp [Capability.registry?]

theorem appContext_found (resolver : Resolver) :
    resolver.Found WellKnown.appContext.name .context resolver.appContext :=
  resolver.found_of_bind _ fun capability value => by
    cases capability <;> simp [Capability.context?]

theorem module_found (resolver : Resolver) (name : String) :
    resolver.Found name .module (resolver.module name) :=
  resolver.found_of_bind _ fun capability value => by
    cases capability <;> simp [Capability.module?]

end Resolver
end Rendezvous

import Mathlib.Data.List.Induction
import Rendezvous.Proofs.Resolution

/-! What a resolver knows, read off the history of its registrations. In a tree a registration
bears on every name above and below its own, since it clears them away; in the native registry
it bears on its own name alone. The last registration that bears on a name decides about it. -/
namespace Rendezvous

/-- One path lies on the way to the other, or is the same. -/
def Comparable (path other : List String) : Prop := path <+: other ∨ other <+: path

instance (path other : List String) : Decidable (Comparable path other) :=
  inferInstanceAs (Decidable (_ ∨ _))

@[simp] theorem comparable_refl (path : List String) : Comparable path path :=
  .inl (List.prefix_refl path)

@[simp] theorem comparable_nil_left (path : List String) : Comparable [] path :=
  .inl List.nil_prefix

@[simp] theorem comparable_nil_right (path : List String) : Comparable path [] :=
  .inr List.nil_prefix

@[simp] theorem comparable_cons (segment other : String) (path rest : List String) :
    Comparable (segment :: path) (other :: rest) ↔ segment = other ∧ Comparable path rest := by
  simp only [Comparable, List.cons_prefix_cons]
  grind

/-- The segments of a name are its parts between the dots. -/
theorem segmentsOf_eq_splitOn (cs : List Char) : segmentsOf cs = cs.splitOn '.' := by
  induction cs with
  | nil => rfl
  | cons c rest ih =>
    rw [List.splitOn_cons_eq_if_modifyHead, ← ih, segmentsOf]
    cases segments : segmentsOf rest with
    | nil => exact absurd segments (segmentsOf_ne_nil rest)
    | cons segment others => simp

theorem segments_inj {name other : String} : segments name = segments other ↔ name = other := by
  refine ⟨fun same => ?_, congrArg segments⟩
  have same : segmentsOf name.toList = segmentsOf other.toList :=
    (List.map_inj_right fun _ _ => String.ofList_inj.mp).mp same
  have back := congrArg (['.'].intercalate) same
  rw [segmentsOf_eq_splitOn, segmentsOf_eq_splitOn, List.intercalate_splitOn,
    List.intercalate_splitOn] at back
  exact String.toList_inj.mp back

namespace CapabilityTree

@[simp] theorem lookupAt_empty (path : List String) : empty.lookupAt path = none := by
  cases path <;> rfl

theorem lookupAt_cons (segment : String) (path : List String) (tree : CapabilityTree) :
    tree.lookupAt (segment :: path) =
      ((tree.children.get? segment).getD empty).lookupAt path := by
  cases tree with
  | leaf capability => simp [lookupAt, children, Children.get?]
  | branch below =>
    simp only [lookupAt, children]
    cases below.get? segment <;> simp

/-- A new leaf is found under its own path, hides what lay above and below it, and leaves
everything else as it was. -/
theorem lookupAt_insertAt_eq (capability : Capability) (path other : List String)
    (tree : CapabilityTree) :
    (tree.insertAt capability path).lookupAt other =
      if Comparable path other then if path = other then some capability else none
      else tree.lookupAt other := by
  induction path generalizing other tree with
  | nil => cases other <;> simp [insertAt, lookupAt]
  | cons segment path ih =>
    cases other with
    | nil => simp [insertAt, lookupAt]
    | cons first rest =>
      rw [insertAt, lookupAt_cons, lookupAt_cons]
      by_cases same : segment = first
      · subst same
        simp [children, ih]
      · have apart : first ≠ segment := Ne.symm same
        simp [children, same, apart]

theorem lookup_insert (tree : CapabilityTree) (name other : String) (capability : Capability) :
    (tree.insert name capability).lookup other =
      if Comparable (segments name) (segments other) then
        if name = other then some capability else none
      else tree.lookup other := by
  simp only [insert, lookup, lookupAt_insertAt_eq, segments_inj]

end CapabilityTree

/-- In this namespace a registration under the first name decides about the second. -/
def Namespace.Bears : Namespace → (registered name : String) → Prop
  | .native, registered, name => registered = name
  | .plugin, registered, name | .legacyPlugin, registered, name =>
    Comparable (segments registered) (segments name)

instance (source : Namespace) (registered name : String) :
    Decidable (source.Bears registered name) :=
  match source with
  | .native => inferInstanceAs (Decidable (registered = name))
  | .plugin | .legacyPlugin => inferInstanceAs (Decidable (Comparable _ _))

namespace Resolver

/-- The last registration in a namespace that bears on a name. -/
def deciding (history : List Registration) (source : Namespace) (name : String) :
    Option Registration :=
  history.reverse.find? fun entry => entry.target = source ∧ source.Bears entry.name name

/-- What is left under a name: the capability of the deciding registration, if that stands
under the very name. -/
def left (history : List Registration) (source : Namespace) (name : String) :
    Option Capability :=
  ((deciding history source name).filter fun entry => entry.name = name).map (·.capability)

/-- The first namespace in which something is left under a name, and what. -/
def answer (history : List Registration) (name : String) : Option (Namespace × Capability) :=
  [.native, .plugin, .legacyPlugin].findSome? fun source =>
    (left history source name).map fun capability => (source, capability)

/-- A registration settles the names it bears on and leaves all others alone. -/
theorem entry_register (resolver : Resolver) (added : Registration) (source : Namespace)
    (name : String) :
    (resolver.register added).entry source name =
      if added.target = source ∧ source.Bears added.name name then
        if added.name = name then some added.capability else none
      else resolver.entry source name := by
  obtain ⟨target, registered, capability⟩ := added
  cases target with
  | native =>
    cases source with
    | native =>
      by_cases same : registered = name
      · simp [register, entry, Namespace.Bears, same]
      · have apart : (name == registered) = false := beq_false_of_ne (Ne.symm same)
        simp [register, entry, Namespace.Bears, same, List.lookup_cons, apart]
    | plugin | legacyPlugin => simp [register, entry]
  | plugin => cases source <;> simp [register, entry, Namespace.Bears, CapabilityTree.lookup_insert]
  | legacyPlugin =>
    cases source <;> simp [register, entry, Namespace.Bears, CapabilityTree.lookup_insert]

theorem left_concat (earlier : List Registration) (added : Registration) (source : Namespace)
    (name : String) :
    left (earlier ++ [added]) source name =
      if added.target = source ∧ source.Bears added.name name then
        if added.name = name then some added.capability else none
      else left earlier source name := by
  unfold left deciding
  rw [List.reverse_concat, List.find?_cons]
  by_cases bears : added.target = source ∧ source.Bears added.name name
  · by_cases same : added.name = name <;> simp_all
  · simp [bears]

/-- Each namespace holds under a name what the history has left there. -/
theorem entry_ofHistory (history : List Registration) (source : Namespace) (name : String) :
    (ofHistory history).entry source name = left history source name := by
  induction history using List.reverseRecOn with
  | nil => cases source <;> simp [entry, left, deciding, empty, CapabilityTree.lookup]
  | append_singleton earlier added ih =>
    rw [ofHistory_append, left_concat, ← ih]
    exact entry_register ..

theorem resolveWithSource_ofHistory (history : List Registration) (name : String) :
    (ofHistory history).resolveWithSource name = answer history name := by
  have native := entry_ofHistory history .native name
  have plugin := entry_ofHistory history .plugin name
  have legacy := entry_ofHistory history .legacyPlugin name
  simp only [entry] at native plugin legacy
  unfold resolveWithSource answer
  rw [native, plugin, legacy]
  simp only [List.findSome?_cons, List.findSome?_nil]
  cases left history .native name <;> cases left history .plugin name <;>
    cases left history .legacyPlugin name <;> rfl

/-- The registrations in one namespace, in their order. -/
def within (source : Namespace) (history : List Registration) : List Registration :=
  history.filter fun entry => entry.target = source

/-- Each namespace is built from its own registrations, whatever stands between them. -/
theorem ofHistory_eq (history : List Registration) :
    ofHistory history =
      { native := (within .native history).foldl
          (fun entries added => (added.name, added.capability) :: entries) []
        plugin := (within .plugin history).foldl
          (fun tree added => tree.insert added.name added.capability) .empty
        legacy := (within .legacyPlugin history).foldl
          (fun tree added => tree.insert added.name added.capability) .empty } := by
  induction history using List.reverseRecOn with
  | nil => rfl
  | append_singleton earlier added ih =>
    obtain ⟨target, name, capability⟩ := added
    rw [ofHistory_append, ih]
    cases target <;> simp [register, within]

/-- Two histories that agree within each namespace build the same resolver. -/
theorem ofHistory_congr {history other : List Registration}
    (same : ∀ source, within source other = within source history) :
    ofHistory other = ofHistory history := by
  rw [ofHistory_eq, ofHistory_eq, same, same, same]

/-- What a typed question is answered: the entry that is left under the name, if it is of the
kind asked for. -/
def Typed (history : List Registration) (name : String) (kind : α → Capability)
    (found : Option α) : Prop :=
  ∀ value, found = some value ↔ ∃ source, answer history name = some (source, kind value)

theorem typed_of_found {history : List Registration} {name : String} {kind : α → Capability}
    (exact : (ofHistory history).Found name kind found) : Typed history name kind found := by
  intro value
  rw [exact value]
  simp only [← resolveWithSource_iff, resolveWithSource_ofHistory]

/-- A resolver is the history of its registrations. The first namespace answers for a name in
which the last registration that bears on the name stands under the very name. How the
registrations in different namespaces are mixed makes no difference, and a typed question is
answered just when that entry is of its kind. -/
theorem resolver_of_history (history : List Registration) :
    let resolver := ofHistory history
    (∀ name, resolver.resolveWithSource name = answer history name) ∧
    (∀ other, (∀ source, within source other = within source history) →
      ofHistory other = resolver) ∧
    Typed history WellKnown.process.name .process resolver.process ∧
    Typed history WellKnown.systemParameter.name .parameters resolver.parameters ∧
    Typed history WellKnown.delegatorRegistry.name .registry resolver.registry ∧
    Typed history WellKnown.appContext.name .context resolver.appContext ∧
    ∀ name, Typed history name .module (resolver.module name) := by
  intro resolver
  refine ⟨resolveWithSource_ofHistory history, fun other => ofHistory_congr, ?_, ?_, ?_, ?_, ?_⟩
  · exact typed_of_found resolver.process_found
  · exact typed_of_found resolver.parameters_found
  · exact typed_of_found resolver.registry_found
  · exact typed_of_found resolver.appContext_found
  · intro name
    exact typed_of_found (resolver.module_found name)

/-- A name above `a.b` clears it away in the plugin tree, so the legacy tree answers; `a.` ends
in an empty segment and lies beside `a.b`, though its text begins that of `a.b` up to there. -/
example :
    answer [⟨.plugin, "a.b", .module "one"⟩, ⟨.legacyPlugin, "a.b", .module "two"⟩,
        ⟨.plugin, "a", .module "three"⟩] "a.b" = some (.legacyPlugin, .module "two") ∧
    answer [⟨.plugin, "a.b", .module "one"⟩, ⟨.plugin, "a.", .module "two"⟩] "a.b" =
      some (.plugin, .module "one") := by
  decide +kernel

end Resolver
end Rendezvous

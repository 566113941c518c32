import Rendezvous.Proofs.CallStackJournal
import Rendezvous.Proofs.FamilyCourse

/-! Ownership of the guards on a call stack. Only the innermost call acts; every call below it
is a setup that has handed its token over and waits for its module. From this, and from where
each family stands in its course, it follows which guards are taken and by whom, and which
launch is whose. Every move keeps it. -/
namespace Rendezvous

/-- Every loaded environment is a new one of its family. -/
def Hooks.Fresh (hooks : Hooks) : Prop :=
  ∀ family env, hooks.get family = some env → env.family = family ∧ env.state = .notStarted

theorem Hooks.install_fresh (resolver : Resolver) (config : BootstrapConfig) :
    (install resolver config).Fresh := by
  intro family env loaded
  obtain ⟨module, _, rfl⟩ := get_install_eq_some.mp loaded
  exact ⟨rfl, rfl⟩

namespace CallStack

open Interleaving (concluding program)

/-- What the innermost call has still to do, as its family stands. -/
inductive Fits : Option Environment → Standing → Frame → Prop where
  | answered (other : ∀ token launch, result ≠ .setup (.completed token launch))
      (finished : begun = true → standing = .idle) :
      Fits loaded standing ⟨family, call, inRuntime, begun, [], .finish result⟩
  | coming (guard : SetupState) (call : Call) :
      Fits (some env) standing ⟨family, call, inRuntime, false, [], program env guard call⟩
  | attempting (connects : env.Connects attempt) :
      Fits (some env) .held ⟨family, .setup, inRuntime, true, [], concluding attempt⟩
  | handed (pending : List (Family × Call)) :
      Fits (some env) (.handed token) ⟨family, .setup, inRuntime, true, pending,
        concluding (.act (.launch env.launcher env.resolver.registry token)
          fun launch => .finish (.completed token launch))⟩
  | firing : Fits (some env) (.fired made conduct .firing) ⟨family, .setup, made.inRuntime, true,
      [], concluding (.finish (.completed made.token made.launch))⟩
  | marked : Fits (some env) (.fired made conduct .marked) ⟨family, .setup, made.inRuntime, true,
      [], .finish (.setup (.completed made.token made.launch))⟩
  | closing : Fits (some env) (.fired made conduct .closed) ⟨family, .teardown, inRuntime, false,
      [], .act (.ask (.dispose env.module)) fun _ => .finish (.teardown .tornDown)⟩

/-- Calls do not care how far their launch has come. -/
theorem Fits.any_conduct (fits : Fits loaded (.fired made conduct since) frame) (after : Conduct) :
    Fits loaded (.fired made after since) frame := by
  cases fits with
  | answered other finished => exact .answered other fun top => by cases finished top
  | coming guard call => exact .coming guard call
  | firing => exact .firing
  | marked => exact .marked
  | closing => exact .closing

/-- A setup that has handed its token over. -/
structure Waits (loaded : Option Environment) (standing : Standing) (frame : Frame) : Prop where
  begun : frame.begun = true
  handed : ∃ token, standing = .handed token
  fits : Fits loaded standing frame

theorem Fits.calling (fits : Fits loaded standing frame) (calling : frame.pending ≠ []) :
    Waits loaded standing frame := by
  cases fits with
  | handed pending => exact ⟨rfl, ⟨_, rfl⟩, .handed pending⟩
  | _ => contradiction

theorem Waits.holding (waits : Waits loaded standing frame) :
    ∃ env, loaded = some env ∧ standing.guard = .inProgress := by
  obtain ⟨begun, ⟨token, rfl⟩, fits⟩ := waits
  cases fits with
  | answered other finished => cases finished begun
  | coming => contradiction
  | handed => exact ⟨_, rfl, rfl⟩

/-- The families whose setups have begun and are under way. -/
def holders (stack : List Frame) : List Family := (stack.filter (·.begun)).map (·.family)

theorem holders_begun (begun : frame.begun = true) :
    holders (frame :: below) = frame.family :: holders below := by
  simp [holders, begun]

theorem holders_aside (aside : frame.begun = false) :
    holders (frame :: below) = holders below := by
  simp [holders, aside]

theorem holders_sublist (frame : Frame) (below : List Frame) :
    (holders below).Sublist (holders (frame :: below)) := by
  cases begun : frame.begun with
  | false => rw [holders_aside begun]
  | true =>
    rw [holders_begun begun]
    exact List.sublist_cons_self ..

theorem mem_holders (member : frame ∈ stack) (begun : frame.begun = true) :
    frame.family ∈ holders stack :=
  List.mem_map_of_mem (List.mem_filter.mpr ⟨member, begun⟩)

theorem holders_subset (stack : List Frame) : holders stack ⊆ stack.map (·.family) :=
  List.map_subset _ (List.filter_sublist.subset)

/-- The calls under way, as the families stand. -/
structure Stacked (hooks : Hooks) (standings : ByFamily Standing) (stack : List Frame) : Prop where
  fits : ∀ frame below, stack = frame :: below →
    Fits (hooks.get frame.family) (standings.get frame.family) frame
  waits : ∀ frame below, stack = frame :: below → ∀ waiting ∈ below,
    Waits (hooks.get waiting.family) (standings.get waiting.family) waiting
  apart : (holders stack).Nodup
  busy : ∀ family, (standings.get family).busy = true → family ∈ holders stack

namespace Stacked

variable {hooks : Hooks} {standings : ByFamily Standing} {frame now : Frame} {below : List Frame}
  {standing : Standing}

/-- A call that has not handed over a token of its family, or that has begun itself, finds no
other setup of the family under way. -/
theorem alone (stacked : Stacked hooks standings (frame :: below))
    (own : frame.begun = true ∨ ∀ token, standings.get frame.family ≠ .handed token) :
    ∀ waiting ∈ below, waiting.family ≠ frame.family := by
  intro waiting member same
  obtain ⟨begun, ⟨token, handed⟩, _⟩ := stacked.waits _ _ rfl waiting member
  rcases own with top | unhanded
  · have apart := stacked.apart
    rw [holders_begun top] at apart
    exact (List.nodup_cons.mp apart).1 (same ▸ mem_holders member begun)
  · exact unhanded token (same ▸ handed)

/-- Beside an innermost call that has not begun, every setup under way has handed over. -/
theorem busy_handed (stacked : Stacked hooks standings (frame :: below))
    (aside : frame.begun = false) (family : Family)
    (busy : (standings.get family).busy = true) :
    ∃ token, standings.get family = .handed token := by
  have member := stacked.busy family busy
  rw [holders_aside aside] at member
  obtain ⟨waiting, there, rfl⟩ := List.mem_map.mp (holders_subset _ member)
  exact (stacked.waits _ _ rfl waiting there).handed

/-- The innermost call goes on, and its family with it. -/
theorem act (stacked : Stacked hooks standings (frame :: below)) (same : now.family = frame.family)
    (fits : Fits (hooks.get frame.family) standing now)
    (own : frame.begun = true ∨ ∀ token, standings.get frame.family ≠ .handed token)
    (holds : standing.busy = true → now.begun = true) :
    Stacked hooks (standings.set frame.family standing) (now :: below) := by
  have alone := stacked.alone own
  have absent : frame.family ∉ holders below := by
    intro member
    obtain ⟨waiting, there, equal⟩ := List.mem_map.mp (holders_subset _ member)
    exact alone waiting there equal
  have distinct : (holders below).Nodup := stacked.apart.sublist (holders_sublist ..)
  refine ⟨?_, ?_, ?_, ?_⟩
  · rintro _ _ ⟨⟩
    rw [same]
    simpa using fits
  · rintro _ _ ⟨⟩ waiting member
    rw [ByFamily.get_set_other (alone waiting member)]
    exact stacked.waits _ _ rfl waiting member
  · cases begun : now.begun with
    | false => rwa [holders_aside begun]
    | true =>
      rw [holders_begun begun, same]
      exact List.nodup_cons.mpr ⟨absent, distinct⟩
  · intro family busy
    by_cases own : family = frame.family
    · subst own
      rw [ByFamily.get_set_same] at busy
      rw [holders_begun (holds busy), same]
      exact List.mem_cons_self
    · rw [ByFamily.get_set_other own] at busy
      have member := stacked.busy family busy
      refine (holders_sublist now below).subset ?_
      cases begun : frame.begun with
      | false => rwa [holders_aside begun] at member
      | true =>
        rw [holders_begun begun] at member
        exact (List.mem_cons.mp member).resolve_left own

/-- The innermost call goes on and changes nothing. -/
theorem idle (stacked : Stacked hooks standings (frame :: below)) (same : now.family = frame.family)
    (fits : Fits (hooks.get frame.family) (standings.get frame.family) now)
    (aside : frame.begun = false) (still : now.begun = false) :
    Stacked hooks standings (now :: below) := by
  refine ⟨?_, ?_, ?_, ?_⟩
  · rintro _ _ ⟨⟩
    rwa [same]
  · rintro _ _ ⟨⟩
    exact stacked.waits _ _ rfl
  · rw [holders_aside still, ← holders_aside aside]
    exact stacked.apart
  · rw [holders_aside still, ← holders_aside aside]
    exact stacked.busy

/-- The innermost call returns. -/
theorem leave (stacked : Stacked hooks standings (frame :: below))
    (finished : frame.begun = true → (standings.get frame.family).busy = false) :
    Stacked hooks standings below := by
  refine ⟨?_, ?_, ?_, ?_⟩
  · rintro top rest rfl
    exact (stacked.waits _ _ rfl top List.mem_cons_self).fits
  · rintro top rest rfl waiting member
    exact stacked.waits _ _ rfl waiting (List.mem_cons_of_mem _ member)
  · exact stacked.apart.sublist (holders_sublist ..)
  · intro family busy
    have member := stacked.busy family busy
    cases begun : frame.begun with
    | false => rwa [holders_aside begun] at member
    | true =>
      rw [holders_begun begun] at member
      refine (List.mem_cons.mp member).resolve_left ?_
      rintro rfl
      simp [finished begun] at busy

/-- The innermost call returns, and its family comes to rest. -/
theorem settle (stacked : Stacked hooks standings (frame :: below))
    (own : frame.begun = true ∨ ∀ token, standings.get frame.family ≠ .handed token)
    (rest : standing.busy = false) :
    Stacked hooks (standings.set frame.family standing) below := by
  -- What it returns is of no account to the calls below.
  have answered : Stacked hooks (standings.set frame.family standing)
      (⟨frame.family, frame.call, frame.inRuntime, false, [], .finish .notLoaded⟩ :: below) :=
    stacked.act rfl (.answered (by simp) (by simp)) own (by simp [rest])
  exact answered.leave (by simp)

theorem any_conduct (stacked : Stacked hooks standings stack)
    (fired : standings.get family = .fired made conduct since) (after : Conduct) :
    Stacked hooks (standings.set family (.fired made after since)) stack := by
  refine ⟨?_, ?_, stacked.apart, ?_⟩
  · rintro frame below rfl
    have fits := stacked.fits _ _ rfl
    by_cases same : frame.family = family
    · subst same
      rw [fired] at fits
      rw [ByFamily.get_set_same]
      exact fits.any_conduct after
    · rwa [ByFamily.get_set_other same]
  · intro frame below equal waiting member
    have waits := stacked.waits _ _ equal waiting member
    obtain ⟨token, handed⟩ := waits.handed
    have apart : waiting.family ≠ family := by
      rintro rfl
      rw [fired] at handed
      contradiction
    rwa [ByFamily.get_set_other apart]
  · intro other busy
    apply stacked.busy other
    by_cases same : other = family
    · subst same
      rw [ByFamily.get_set_same] at busy
      rw [fired, ← busy]
      cases since <;> rfl
    · rwa [ByFamily.get_set_other same] at busy

/-- A module calls back. -/
theorem call (stacked : Stacked hooks standings (frame :: below))
    (waits : Waits (hooks.get frame.family) (standings.get frame.family) now)
    (same : now.family = frame.family) (begun : frame.begun = true)
    (fits : Fits (hooks.get arrived.family) (standings.get arrived.family) arrived)
    (aside : arrived.begun = false) :
    Stacked hooks standings (arrived :: now :: below) := by
  have holding : holders (arrived :: now :: below) = holders (frame :: below) := by
    rw [holders_aside aside, holders_begun waits.begun, holders_begun begun, same]
  refine ⟨?_, ?_, ?_, ?_⟩
  · rintro _ _ ⟨⟩
    exact fits
  · rintro _ _ ⟨⟩ waiting member
    rcases List.mem_cons.mp member with rfl | member
    · rwa [same]
    · exact stacked.waits _ _ rfl waiting member
  · rw [holding]
    exact stacked.apart
  · rw [holding]
    exact stacked.busy

end Stacked

/-- The launch that a family's setup has fired, and what it has done. -/
def Standing.launch? : Standing → Option (Fired × Conduct)
  | .fired made conduct _ => some (made, conduct)
  | _ => none

theorem launch?_set (standings : ByFamily Standing) (family : Family) (standing : Standing)
    (same : standing.launch? = (standings.get family).launch?) (other : Family) :
    ((standings.set family standing).get other).launch? = (standings.get other).launch? := by
  by_cases own : other = family
  · subst own
    rw [ByFamily.get_set_same, same]
  · rw [ByFamily.get_set_other own]

/-- What a launch shows of its conduct. -/
inductive Carries (env : Environment) (launch : Launch) : Conduct → Prop where
  | waiting (created : launch.stage = .created)
      (registered : env.resolver.registry = some launch.registry) : Carries env launch .waiting
  | barren (ended : launch.stage = .ended exit) : Carries env launch .barren
  | skipped (ended : launch.stage = .ended exit) : Carries env launch .skipped
  | begun (delegator : Delegator) (gone : launch.stage ≠ .created)
      (registered : env.resolver.registry = some launch.registry) :
      Carries env launch (.begun delegator)

/-- Every launch is that of the one setup which fired it. -/
structure Ledger (hooks : Hooks) (standings : ByFamily Standing) (launches : List Launch) :
    Prop where
  carried : ∀ family made conduct, (standings.get family).launch? = some (made, conduct) →
    ∃ env launch, hooks.get family = some env ∧ launches[made.launch]? = some launch ∧
      launch.launcher = env.launcher ∧ launch.token = made.token ∧ Carries env launch conduct
  owned : ∀ id launch, launches[id]? = some launch → ∃ made conduct,
    (standings.get launch.launcher.family).launch? = some (made, conduct) ∧ made.launch = id

namespace Ledger

variable {hooks : Hooks} {standings : ByFamily Standing} {launches : List Launch}
  {family : Family} {standing : Standing}

theorem keep (ledger : Ledger hooks standings launches)
    (same : standing.launch? = (standings.get family).launch?) :
    Ledger hooks (standings.set family standing) launches := by
  have all := launch?_set standings family standing same
  refine ⟨?_, ?_⟩
  · intro other made conduct fired
    exact ledger.carried other made conduct (all other ▸ fired)
  · intro id launch found
    obtain ⟨made, conduct, fired, equal⟩ := ledger.owned id launch found
    exact ⟨made, conduct, by rw [all, fired], equal⟩

theorem fire_carries (env : Environment) (inRuntime : Bool) (token : Token) :
    Carries env (.fire inRuntime env.launcher env.resolver.registry token)
      (.ofFire inRuntime env.resolver.registry) := by
  unfold Launch.fire
  cases registry : env.resolver.registry with
  | none => simpa [Conduct.ofFire] using .barren rfl
  | some handle =>
    cases inRuntime with
    | false => exact .barren rfl
    | true => exact .waiting rfl registry

theorem fire_same (inRuntime : Bool) (launcher : Launcher) (registry : Option Handle)
    (token : Token) : (Launch.fire inRuntime launcher registry token).launcher = launcher ∧
      (Launch.fire inRuntime launcher registry token).token = token := by
  cases registry <;> exact ⟨rfl, rfl⟩

theorem fire (ledger : Ledger hooks standings launches) (loaded : hooks.get family = some env)
    (own : env.family = family) (unfired : (standings.get family).launch? = none)
    (inRuntime : Bool) (token : Token) :
    Ledger hooks
      (standings.set family (.fired ⟨token, launches.length, inRuntime⟩
        (.ofFire inRuntime env.resolver.registry) .firing))
      (launches ++ [.fire inRuntime env.launcher env.resolver.registry token]) := by
  obtain ⟨launcher, same⟩ := fire_same inRuntime env.launcher env.resolver.registry token
  refine ⟨?_, ?_⟩
  · intro other made conduct fired
    by_cases mine : other = family
    · subst mine
      rw [ByFamily.get_set_same] at fired
      obtain ⟨rfl, rfl⟩ := Prod.mk.inj (Option.some.inj fired)
      exact ⟨env, _, loaded, by simp, launcher, same, fire_carries ..⟩
    · rw [ByFamily.get_set_other mine] at fired
      obtain ⟨env, launch, loaded, found, rest⟩ := ledger.carried other made conduct fired
      have bound := (List.getElem?_eq_some_iff.mp found).1
      exact ⟨env, launch, loaded, by rw [List.getElem?_append_left bound, found], rest⟩
  · intro id launch found
    rcases Nat.lt_or_ge id launches.length with old | new
    · rw [List.getElem?_append_left old] at found
      obtain ⟨made, conduct, fired, equal⟩ := ledger.owned id launch found
      have others : launch.launcher.family ≠ family := by
        intro mine
        rw [mine, unfired] at fired
        contradiction
      exact ⟨made, conduct, by rw [ByFamily.get_set_other others, fired], equal⟩
    · have bound := (List.getElem?_eq_some_iff.mp found).1
      rw [List.length_append, List.length_singleton] at bound
      obtain rfl : id = launches.length := Nat.le_antisymm (Nat.lt_succ_iff.mp bound) new
      obtain rfl : _ = launch := by simpa using found
      have mine : (Launch.fire inRuntime env.launcher env.resolver.registry token).launcher.family =
          family := by rw [launcher, ← own]; rfl
      exact ⟨_, _, by rw [mine, ByFamily.get_set_same]; rfl, rfl⟩

/-- A launch goes on, in the name of its family. -/
theorem advance (ledger : Ledger hooks standings launches) (fresh : hooks.Fresh)
    (found : launches[made.launch]? = some launch) (loaded : hooks.get family = some env)
    (mine : (standings.get family).launch? = some (made, conduct))
    (fired : standing.launch? = some (made, after))
    (carries : Carries env { launch with stage } after) :
    Ledger hooks (standings.set family standing)
      (launches.set made.launch { launch with stage }) := by
  have bound := (List.getElem?_eq_some_iff.mp found).1
  have named (other : Family) (env : Environment) (launch : Launch)
      (loaded : hooks.get other = some env) (launcher : launch.launcher = env.launcher) :
      launch.launcher.family = other := by
    rw [launcher, ← (fresh other env loaded).1]
    rfl
  obtain ⟨env', launch', loaded', found', launcher, token, _⟩ := ledger.carried _ _ _ mine
  obtain rfl : env = env' := Option.some.inj (loaded.symm.trans loaded')
  obtain rfl : launch = launch' := Option.some.inj (found.symm.trans found')
  have own := named family env launch loaded launcher
  refine ⟨?_, ?_⟩
  · intro other made' conduct' fired'
    by_cases same : other = family
    · subst same
      rw [ByFamily.get_set_same, fired] at fired'
      obtain ⟨rfl, rfl⟩ := Prod.mk.inj (Option.some.inj fired')
      exact ⟨env, { launch with stage }, loaded, by simp [bound], launcher, token, carries⟩
    · rw [ByFamily.get_set_other same] at fired'
      obtain ⟨env', launch', loaded', found', launcher', rest⟩ := ledger.carried _ _ _ fired'
      have apart : made'.launch ≠ made.launch := by
        intro equal
        rw [equal, found] at found'
        obtain rfl := Option.some.inj found'
        exact same ((named other env' launch loaded' launcher').symm.trans own)
      have still : (launches.set made.launch { launch with stage })[made'.launch]? =
          some launch' := by rw [List.getElem?_set_ne apart.symm, found']
      exact ⟨env', launch', loaded', still, launcher', rest⟩
  · intro id launch' there
    by_cases same : id = made.launch
    · subst same
      obtain rfl : _ = launch' := by simpa [bound] using there
      exact ⟨made, after, by rw [own, ByFamily.get_set_same, fired], rfl⟩
    · rw [List.getElem?_set_ne (Ne.symm same)] at there
      obtain ⟨made', conduct', fired', equal⟩ := ledger.owned id launch' there
      have others : launch'.launcher.family ≠ family := by
        intro mine'
        rw [mine', mine] at fired'
        obtain ⟨rfl, rfl⟩ := Prod.mk.inj (Option.some.inj fired')
        exact same equal.symm
      exact ⟨made', conduct', by rw [ByFamily.get_set_other others, fired'], equal⟩

end Ledger

/-- The invariant: the guards stand as the families do, the journal has led them there, and
the calls under way and the launches are as they should be. -/
structure Coherent (hooks : Hooks) (m : Machine σ τ) (standings : ByFamily Standing) : Prop where
  guards : ∀ family, m.session.hooks.get family = (hooks.get family).map fun env =>
    { env with state := (standings.get family).guard }
  spells : ∀ family, Spells (hooks.get family) (deeds family m.journal) (standings.get family)
  stacked : Stacked hooks standings m.stack
  ledger : Ledger hooks standings m.session.launches

/-- Once no call is under way, every family is at rest. -/
theorem Coherent.at_rest {m : Machine σ τ} (coherent : Coherent hooks m standings)
    (quiet : m.stack = []) (family : Family) :
    standings.get family = .idle ∨ ∃ made, (standings.get family).made? = some made := by
  refine (standings.get family).rest_cases ?_
  cases busy : (standings.get family).busy with
  | false => rfl
  | true =>
    have holding := coherent.stacked.busy family busy
    rw [quiet] at holding
    contradiction

end CallStack
end Rendezvous

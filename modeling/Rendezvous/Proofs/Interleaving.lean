import Rendezvous.Launch

/-! Concurrent calls on one environment. All callers hold clones of one handle, so its guard
is what they share. Each goes through the program of its call; a schedule says who moves next
and what the host would then answer. A guard operation is one step. A host call is two, the
call and its return, and other callers may move between them, those included that a module
starts from inside its own callback. -/
namespace Rendezvous.Interleaving

/-- What a caller has done in one step. -/
inductive Deed where
  | guard (op : GuardOp) (changed : Bool)
  | asked (request : Request)
  | answered (request : Request)
  | launched (launcher : Launcher) (registry : Option Handle) (token : Token)
  deriving DecidableEq, Repr

structure Record where
  caller : Nat
  deed : Deed
  deriving DecidableEq, Repr

/-- A call under way: what is left of it, and whether the host call that comes first there
has been made and has not returned. -/
structure Caller where
  rest : Program CallResult
  inside : Bool

structure State where
  guard : SetupState
  callers : List Caller
  log : List Record

/-- What one caller has done. -/
def deeds (caller : Nat) (log : List Record) : List Deed :=
  log.filterMap fun record => if record.caller = caller then some record.deed else none

/-- Whether a caller is between its successful begin and its complete or abort. -/
def holds (caller : Nat) (log : List Record) : Bool :=
  (deeds caller log).foldl (fun held deed =>
    match deed with
    | .guard .tryBegin changed => changed || held
    | .guard .complete _ | .guard .abort _ => false
    | _ => held) false

/-- A new environment on which nobody has called. -/
def initial : State := ⟨.notStarted, [], []⟩

/-- What surrounds the environment at one moment: the host's answer to every request, and the
number that a launch would get. -/
structure Surroundings where
  answer : (request : Request) → request.Answer
  launch : LaunchId

/-- A call that arrives while the guard stands like this. -/
def program (env : Environment) (guard : SetupState) : Call → Program CallResult
  | .setup => env.setup.bind fun outcome => .finish (.setup outcome)
  | .teardown => env.teardown.bind fun outcome => .finish (.teardown outcome)
  | .state => .finish (.state guard)

/-- The next step of a call that has not returned: the guard and the call after it, and what
was done. -/
def Caller.step (surroundings : Surroundings) (guard : SetupState) :
    Caller → Option (SetupState × Caller × Deed)
  | ⟨.finish _, _⟩ => none
  | ⟨.act (.guard op) next, _⟩ =>
    let (changed, guard) := guard.apply op
    some (guard, ⟨next changed, false⟩, .guard op changed)
  | ⟨.act (.ask request) next, false⟩ =>
    some (guard, ⟨.act (.ask request) next, true⟩, .asked request)
  | ⟨.act (.ask request) next, true⟩ =>
    some (guard, ⟨next (surroundings.answer request), false⟩, .answered request)
  | ⟨.act (.launch launcher registry token) next, _⟩ =>
    some (guard, ⟨next surroundings.launch, false⟩, .launched launcher registry token)

def Caller.result? : Caller → Option CallResult
  | ⟨.finish result, _⟩ => some result
  | ⟨.act _ _, _⟩ => none

/-- What a caller's call returned, once it has. -/
def State.result? (s : State) (caller : Nat) : Option CallResult :=
  s.callers[caller]?.bind Caller.result?

/-- No call is in progress. -/
def State.Quiet (s : State) : Prop := ∀ caller ∈ s.callers, caller.result?.isSome = true

def State.ReturnedCompleted (s : State) (caller : Nat) : Prop :=
  ∃ token launch, s.result? caller = some (.setup (.completed token launch))

def State.ReturnedTornDown (s : State) (caller : Nat) : Prop :=
  s.result? caller = some (.teardown .tornDown)

inductive Move where
  /-- One more caller. -/
  | enter (call : Call)
  /-- One step of a caller, if there is one left. -/
  | advance (caller : Nat) (surroundings : Surroundings)

def move (env : Environment) : Move → State → State
  | .enter call, s => { s with callers := s.callers ++ [⟨program env s.guard call, false⟩] }
  | .advance caller surroundings, s =>
    match s.callers[caller]?.bind (Caller.step surroundings s.guard) with
    | none => s
    | some (guard, now, deed) => ⟨guard, s.callers.set caller now, s.log ++ [⟨caller, deed⟩]⟩

def execute (env : Environment) : List Move → State → State
  | [], s => s
  | next :: schedule, s => execute env schedule (move env next s)

@[simp] theorem deeds_nil (caller : Nat) : deeds caller [] = [] := rfl

@[simp] theorem deeds_cons (caller : Nat) (record : Record) (log : List Record) :
    deeds caller (record :: log) =
      if record.caller = caller then record.deed :: deeds caller log else deeds caller log := by
  by_cases own : record.caller = caller <;> simp [deeds, own]

@[simp] theorem deeds_append (caller : Nat) (earlier later : List Record) :
    deeds caller (earlier ++ later) = deeds caller earlier ++ deeds caller later := by
  simp [deeds]

theorem mem_deeds {caller : Nat} {log : List Record} {deed : Deed} :
    deed ∈ deeds caller log ↔ ⟨caller, deed⟩ ∈ log := by
  constructor
  · intro member
    obtain ⟨⟨id, done⟩, found, equal⟩ := List.mem_filterMap.mp member
    split at equal
    · obtain rfl := Option.some.inj equal
      simp_all
    · contradiction
  · intro member
    exact List.mem_filterMap.mpr ⟨_, member, if_pos rfl⟩

/-- Before its only deed a caller has done nothing. -/
theorem split_of_deeds {caller : Nat} {log : List Record} {deed : Deed}
    (only : deeds caller log = [deed]) :
    ∃ earlier later, log = earlier ++ ⟨caller, deed⟩ :: later ∧ deeds caller earlier = [] := by
  have member : ⟨caller, deed⟩ ∈ log := mem_deeds.mp (by simp [only])
  obtain ⟨earlier, later, rfl⟩ := List.append_of_mem member
  refine ⟨earlier, later, rfl, ?_⟩
  have sizes := congrArg List.length only
  simp only [deeds_append, deeds_cons, ↓reduceIte, List.length_append, List.length_cons,
    List.length_nil] at sizes
  exact List.eq_nil_of_length_eq_zero (by omega)

theorem holds_of_deeds_nil (none : deeds caller log = []) : holds caller log = false := by
  simp [holds, none]

end Rendezvous.Interleaving

import Mathlib.Computability.Language
import Rendezvous.Guard

/-! The guard under any calls at all, also those of callers that never began. Whatever is called,
the calls that change the state spell the beginning of one life: some setups that are given up, one
that is completed, and its teardown. All other calls are without effect. -/
namespace Rendezvous.GuardLanguage

/-- What can be called on a guard. -/
inductive Act where
  | operate (op : GuardOp)
  | look
  deriving DecidableEq, Repr

/-- What a call returns: whether it changed the state, nothing, or the state. -/
inductive Answer where
  | told (changed : Bool)
  | silence
  | seen (state : SetupState)
  deriving DecidableEq, Repr

/-- The first operation and the last tell whether they took place, those between them do not. -/
def Act.answer : Act → SetupState → Answer
  | .operate .tryBegin, state => .told (state.apply .tryBegin).1
  | .operate .complete, _ => .silence
  | .operate .abort, _ => .silence
  | .operate .tryTeardown, state => .told (state.apply .tryTeardown).1
  | .look, state => .seen state

def Act.next : Act → SetupState → SetupState
  | .operate op, state => (state.apply op).2
  | .look, state => state

/-- A call that has returned. -/
structure Event where
  caller : Nat
  act : Act
  before : SetupState
  answer : Answer
  after : SetupState
  deriving DecidableEq, Repr

def Act.event (caller : Nat) (act : Act) (state : SetupState) : Event :=
  ⟨caller, act, state, act.answer state, act.next state⟩

/-- The events of calls that are made one after the other. -/
def record (state : SetupState) : List (Nat × Act) → List Event
  | [] => []
  | (caller, act) :: later => act.event caller state :: record (act.next state) later

/-- The state after calls that are made one after the other. -/
def final (state : SetupState) (calls : List (Nat × Act)) : SetupState :=
  calls.foldl (fun state call => call.2.next state) state

def Event.changes (event : Event) : Bool := event.before ≠ event.after

theorem Event.changes_eq_false {event : Event} :
    event.changes = false ↔ event.after = event.before := by
  rw [Event.changes, decide_eq_false_iff_not, not_not]
  exact eq_comm

/-- Setups that are given up, then one that is completed, and its teardown. -/
def lives : Language GuardOp :=
  KStar.kstar {[.tryBegin, .abort]} * {[.tryBegin, .complete, .tryTeardown]}

/-- The state that a word of changes ends in. -/
def ending (word : List GuardOp) : SetupState :=
  (word.getLast?.map GuardOp.target).getD .notStarted

/-! One step -/

theorem next_of_source (op : GuardOp) : Act.next (.operate op) op.source = op.target := by
  simp [Act.next]

theorem next_of_other {op : GuardOp} {state : SetupState} (other : state ≠ op.source) :
    Act.next (.operate op) state = state := by
  simp [Act.next, SetupState.apply, other]

theorem target_ne_source (op : GuardOp) : op.target ≠ op.source := by
  cases op <;> decide

/-- A call changes the state just if it is an operation that finds its source. -/
theorem changes_event {caller : Nat} {act : Act} {state : SetupState} :
    (act.event caller state).changes = true ↔ ∃ op, act = .operate op ∧ state = op.source := by
  cases act with
  | look => simp [Event.changes, Act.event, Act.next]
  | operate op =>
    by_cases own : state = op.source
    · subst own
      simp [Event.changes, Act.event, next_of_source, (target_ne_source op).symm]
    · simp [Event.changes, Act.event, next_of_other own, own]

/-- Of the two that tell, each tells the truth. -/
theorem answer_told {op : GuardOp} (tells : op = .tryBegin ∨ op = .tryTeardown) (caller : Nat)
    (state : SetupState) :
    Act.answer (.operate op) state = .told (Act.event caller (.operate op) state).changes := by
  have truth : (state.apply op).1 = (Act.event caller (.operate op) state).changes := by
    rw [Bool.eq_iff_iff, SetupState.apply_fst, changes_event]
    simp
  rcases tells with rfl | rfl <;> exact congrArg Answer.told truth

/-! A whole history -/

theorem record_append (state : SetupState) (earlier later : List (Nat × Act)) :
    record state (earlier ++ later) =
      record state earlier ++ record (final state earlier) later := by
  induction earlier generalizing state with
  | nil => rfl
  | cons call earlier ih => exact congrArg (_ :: ·) (ih _)

theorem final_append (state : SetupState) (earlier later : List (Nat × Act)) :
    final state (earlier ++ later) = final (final state earlier) later :=
  List.foldl_append ..

/-- The calls before an event are those that led to it. -/
theorem record_split {state : SetupState} {calls : List (Nat × Act)} {earlier later : List Event}
    {event : Event} (split : record state calls = earlier ++ event :: later) :
    ∃ before caller act, earlier = record state before ∧
      event = Act.event caller act (final state before) := by
  induction calls generalizing state earlier with
  | nil => simp [record] at split
  | cons call calls ih =>
    obtain ⟨caller, act⟩ := call
    cases earlier with
    | nil => exact ⟨[], caller, act, rfl, (List.cons.inj split).1.symm⟩
    | cons first earlier =>
      obtain ⟨rfl, rest⟩ := List.cons.inj split
      obtain ⟨before, other, last, rfl, rfl⟩ := ih rest
      exact ⟨(caller, act) :: before, other, last, rfl, rfl⟩

theorem mem_record {state : SetupState} {calls : List (Nat × Act)} {event : Event}
    (member : event ∈ record state calls) :
    ∃ caller act state, event = Act.event caller act state := by
  obtain ⟨earlier, later, split⟩ := List.append_of_mem member
  obtain ⟨before, caller, act, -, rfl⟩ := record_split split
  exact ⟨caller, act, _, rfl⟩

/-- The straight way from a new guard to a state. -/
def path : SetupState → List GuardOp
  | .notStarted => []
  | .inProgress => [.tryBegin]
  | .done => [.tryBegin, .complete]
  | .tornDown => [.tryBegin, .complete, .tryTeardown]

/-- Setups that were given up. -/
def givenUp (count : Nat) : List GuardOp := (List.replicate count [.tryBegin, .abort]).flatten

theorem givenUp_succ (count : Nat) :
    givenUp (count + 1) = givenUp count ++ [.tryBegin, .abort] := by
  simp [givenUp, List.replicate_succ']

/-- An operation that finds its source lengthens the path, or ends one more setup in vain. -/
theorem path_extended (op : GuardOp) (count : Nat) :
    ∃ more, givenUp count ++ path op.source ++ [op] = givenUp more ++ path op.target := by
  cases op with
  | tryBegin => exact ⟨count, by simp [GuardOp.source, GuardOp.target, path]⟩
  | complete => exact ⟨count, by simp [GuardOp.source, GuardOp.target, path]⟩
  | abort => exact ⟨count + 1, by simp [GuardOp.source, GuardOp.target, path, givenUp_succ]⟩
  | tryTeardown => exact ⟨count, by simp [GuardOp.source, GuardOp.target, path]⟩

/-- The acts that changed the state are some setups in vain and the path to where it stands. -/
def Spelled (changed : List Act) (state : SetupState) : Prop :=
  ∃ count, changed = (givenUp count ++ path state).map Act.operate

/-- One more call, by whomever. -/
theorem Spelled.step {changed : List Act} {state : SetupState} (spelled : Spelled changed state)
    (caller : Nat) (act : Act) :
    Spelled (changed ++ ([act.event caller state].filter Event.changes).map Event.act)
      (act.next state) := by
  obtain ⟨count, rfl⟩ := spelled
  cases changes : (act.event caller state).changes with
  | true =>
    obtain ⟨op, rfl, rfl⟩ := changes_event.mp changes
    obtain ⟨more, extended⟩ := path_extended op count
    have named : [Act.event caller (.operate op) op.source].map Event.act =
        [op].map Act.operate := rfl
    refine ⟨more, ?_⟩
    rw [next_of_source, ← extended, List.filter_singleton, changes, cond_true, named,
      ← List.map_append]
  | false =>
    have still : act.next state = state := Event.changes_eq_false.mp changes
    refine ⟨count, ?_⟩
    rw [still, List.filter_singleton, changes, cond_false, List.map_nil, List.append_nil]

theorem changes_spelled (calls : List (Nat × Act)) :
    Spelled (((record .notStarted calls).filter Event.changes).map Event.act)
      (final .notStarted calls) := by
  induction calls using List.reverseRecOn with
  | nil => exact ⟨0, rfl⟩
  | append_singleton calls call ih =>
    obtain ⟨caller, act⟩ := call
    rw [record_append, final_append, List.filter_append, List.map_append]
    exact ih.step caller act

theorem ending_spelled (count : Nat) (state : SetupState) :
    ending (givenUp count ++ path state) = state := by
  cases state with
  | notStarted =>
    cases count with
    | zero => rfl
    | succ count => simp [givenUp_succ, path, ending, GuardOp.target]
  | inProgress => simp [path, ending, GuardOp.target]
  | done => simp [path, ending, GuardOp.target]
  | tornDown => simp [path, ending, GuardOp.target]

theorem life_lives (count : Nat) : givenUp count ++ path .tornDown ∈ lives := by
  refine Language.append_mem_mul (Language.join_mem_kstar fun attempt member => ?_) rfl
  exact List.eq_of_mem_replicate member

theorem spelled_prefix (count : Nat) (state : SetupState) :
    givenUp count ++ path state <+: givenUp count ++ path .tornDown := by
  rw [List.prefix_append_right_inj]
  cases state <;> decide

theorem count_spelled (count : Nat) (state : SetupState) :
    (givenUp count ++ path state).count .tryTeardown ≤ 1 := by
  have none : (givenUp count).count .tryTeardown = 0 := by
    refine List.count_eq_zero.mpr fun member => ?_
    obtain ⟨attempt, found, inside⟩ := List.mem_flatten.mp member
    rw [List.eq_of_mem_replicate found] at inside
    simp at inside
  rw [List.count_append, none, Nat.zero_add]
  cases state <;> decide

/-- The calls that changed the state spell the beginning of a life, and the state is the one in
which that ends. -/
def Spells (events : List Event) (state : SetupState) : Prop :=
  ∃ word, ∃ life ∈ lives, word <+: life ∧
    (events.filter Event.changes).map Event.act = word.map Act.operate ∧ state = ending word

theorem record_spells (calls : List (Nat × Act)) :
    Spells (record .notStarted calls) (final .notStarted calls) := by
  obtain ⟨count, spelled⟩ := changes_spelled calls
  exact ⟨_, _, life_lives count, spelled_prefix count _, spelled, (ending_spelled count _).symm⟩

/-- A teardown that tells its success. -/
def Event.tearsDown (event : Event) : Bool :=
  event.act = .operate .tryTeardown ∧ event.answer = .told true

theorem tearsDown_iff {caller : Nat} {act : Act} {state : SetupState} :
    (act.event caller state).tearsDown = true ↔
      act = .operate .tryTeardown ∧ (act.event caller state).changes = true := by
  by_cases own : act = .operate .tryTeardown
  · subst own
    have told := answer_told (.inr rfl : GuardOp.tryTeardown = .tryBegin ∨ _) caller state
    have answered : (Act.event caller (.operate .tryTeardown) state).answer = _ := told
    rw [Event.tearsDown, answered]
    simp [Act.event]
  · simp [Event.tearsDown, Act.event, own]

theorem count_tearsDown (calls : List (Nat × Act)) :
    (record .notStarted calls).countP Event.tearsDown ≤ 1 := by
  obtain ⟨count, spelled⟩ := changes_spelled calls
  have same : (record .notStarted calls).countP Event.tearsDown =
      (((record .notStarted calls).filter Event.changes).map Event.act).count
        (.operate .tryTeardown) := by
    rw [List.count_eq_countP, List.countP_map, List.countP_filter]
    refine List.countP_congr fun event member => ?_
    obtain ⟨caller, act, state, rfl⟩ := mem_record member
    rw [tearsDown_iff]
    simp [Act.event]
  rw [same, spelled, List.count_map_of_injective _ _ fun _ _ => Act.operate.inj]
  exact count_spelled count _

/-- Where the guard has been completed, a complete has taken place. -/
theorem completed_before {calls : List (Nat × Act)} (done : final .notStarted calls = .done) :
    ∃ event ∈ record .notStarted calls, event.act = .operate .complete ∧ event.changes = true := by
  obtain ⟨count, spelled⟩ := changes_spelled calls
  have member : Act.operate .complete ∈
      ((record .notStarted calls).filter Event.changes).map Event.act := by
    rw [spelled, done]
    simp [path]
  obtain ⟨event, found, complete⟩ := List.mem_map.mp member
  obtain ⟨recorded, changes⟩ := List.mem_filter.mp found
  exact ⟨event, recorded, complete, changes⟩

/-- Any calls on a new guard, by any callers. At every moment the calls that changed the state spell
the beginning of a life that ends in the state of that moment; a change is always an operation that
went from its source to its target, and every other call leaves the state as it is. The two calls
that tell whether they took place tell just that, and a look tells the state. A teardown takes place
at most once, and only after a complete that took place. -/
theorem guard_lives_once (calls : List (Nat × Act)) :
    let events := record .notStarted calls
    Spells events (final .notStarted calls) ∧
    (∀ earlier event later, events = earlier ++ event :: later → Spells earlier event.before) ∧
    (∀ event ∈ events,
      (event.changes = true ∧
        ∃ op, event.act = .operate op ∧ event.before = op.source ∧ event.after = op.target) ∨
      (event.changes = false ∧ event.after = event.before)) ∧
    (∀ event ∈ events, ∀ op, op = .tryBegin ∨ op = .tryTeardown →
      event.act = .operate op → event.answer = .told event.changes) ∧
    (∀ event ∈ events, event.act = .look → event.answer = .seen event.before) ∧
    events.countP Event.tearsDown ≤ 1 ∧
    (∀ earlier event later, events = earlier ++ event :: later → event.tearsDown = true →
      ∃ former ∈ earlier, former.act = .operate .complete ∧ former.changes = true) := by
  intro events
  refine ⟨record_spells calls, ?_, ?_, ?_, ?_, count_tearsDown calls, ?_⟩
  · intro earlier event later split
    obtain ⟨before, caller, act, rfl, rfl⟩ := record_split split
    exact record_spells before
  · intro event member
    obtain ⟨caller, act, state, rfl⟩ := mem_record member
    cases changed : (act.event caller state).changes with
    | false => exact .inr ⟨rfl, Event.changes_eq_false.mp changed⟩
    | true =>
      obtain ⟨op, rfl, rfl⟩ := changes_event.mp changed
      exact .inl ⟨rfl, op, rfl, rfl, next_of_source op⟩
  · intro event member op tells called
    obtain ⟨caller, act, state, rfl⟩ := mem_record member
    obtain rfl : act = .operate op := called
    exact answer_told tells caller state
  · intro event member looked
    obtain ⟨caller, act, state, rfl⟩ := mem_record member
    obtain rfl : act = .look := looked
    rfl
  · intro earlier event later split torn
    obtain ⟨before, caller, act, rfl, rfl⟩ := record_split split
    obtain ⟨rfl, changed⟩ := tearsDown_iff.mp torn
    obtain ⟨op, own, source⟩ := changes_event.mp changed
    obtain rfl := Act.operate.inj own
    exact completed_before source

/-- The guard does not know who began, so the abort of another caller takes place. -/
example : ((record .notStarted [(0, .operate .complete), (1, .operate .tryBegin),
    (2, .operate .abort), (1, .operate .complete), (2, .operate .tryTeardown)]).filter
      Event.changes).map Event.caller = [1, 2] := by decide

end Rendezvous.GuardLanguage

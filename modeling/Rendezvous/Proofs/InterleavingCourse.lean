import Rendezvous.Proofs.Interleaving

/-! The course of an environment: the phases it goes through while callers come and go, and
the logs that lead to each phase. A log spells at most one hand-over, one launch and one
disposal, in this order; this follows from the course alone, whoever the callers are. -/
namespace Rendezvous.Interleaving

/-- How far an environment has come, and through whom. -/
inductive Phase where
  | idle
  | held (owner : Nat)
  | scheduling (owner : Nat) (token : Token)
  | scheduled (owner : Nat) (token : Token)
  | launched (owner : Nat) (token : Token)
  | done (owner : Nat)
  | closing (owner closer : Nat)
  | disposing (owner closer : Nat)
  | closed (owner closer : Nat)

namespace Phase

def guard : Phase → SetupState
  | .idle => .notStarted
  | .held _ | .scheduling .. | .scheduled .. | .launched .. => .inProgress
  | .done _ => .done
  | .closing .. | .disposing .. | .closed .. => .tornDown

/-- The caller whose setup is between its begin and its end. -/
def holder? : Phase → Option Nat
  | .held owner | .scheduling owner _ | .scheduled owner _ | .launched owner _ => some owner
  | _ => none

/-- The caller whose setup has handed over its token, with that token. -/
def scheduled? : Phase → Option (Nat × Token)
  | .scheduled owner token | .launched owner token => some (owner, token)
  | _ => none

/-- The caller whose setup has come to its end. -/
def owner? : Phase → Option Nat
  | .done owner | .closing owner _ | .disposing owner _ | .closed owner _ => some owner
  | _ => none

/-- The caller whose teardown has found a completed setup. -/
def closer? : Phase → Option Nat
  | .closing _ closer | .disposing _ closer | .closed _ closer => some closer
  | _ => none

def schedulings : Phase → Nat
  | .idle | .held _ => 0
  | _ => 1

def launches : Phase → Nat
  | .idle | .held _ | .scheduling .. | .scheduled .. => 0
  | _ => 1

def disposals : Phase → Nat
  | .disposing .. | .closed .. => 1
  | _ => 0

theorem schedulings_le (phase : Phase) : phase.schedulings ≤ 1 := by
  cases phase <;> simp [schedulings]

theorem launches_le (phase : Phase) : phase.launches ≤ 1 := by
  cases phase <;> simp [launches]

theorem disposals_le (phase : Phase) : phase.disposals ≤ 1 := by
  cases phase <;> simp [disposals]

theorem guard_inProgress (phase : Phase) :
    phase.guard = .inProgress ↔ ∃ owner, phase.holder? = some owner := by
  cases phase <;> simp [guard, holder?]

/-- A setup comes too late while another is at it, and once one has come to its end. -/
theorem busy_cases (phase : Phase) (busy : phase.guard ≠ .notStarted) :
    (∃ other, phase.holder? = some other) ∨ ∃ other, phase.owner? = some other := by
  cases phase <;> simp_all [guard, holder?, owner?]

/-- A teardown has nothing to do before a setup has come to its end, and after another. -/
theorem undone_cases (phase : Phase) (undone : phase.guard ≠ .done) :
    phase.owner? = none ∨ ∃ other, phase.closer? = some other := by
  cases phase <;> simp_all [guard, owner?, closer?]

end Phase

/-- A question asked before anything is handed over. -/
def isQuestion : Request → Bool
  | .schedule .. | .dispose _ => false
  | _ => true

namespace Record

def isScheduling (record : Record) : Bool :=
  match record.deed with
  | .asked (.schedule ..) => true
  | _ => false

def isLaunch (record : Record) : Bool :=
  match record.deed with
  | .launched .. => true
  | _ => false

def isDisposal (record : Record) : Bool :=
  match record.deed with
  | .asked (.dispose _) => true
  | _ => false

end Record

/-- The course of an environment with this module, one record at a time. Only the caller that
has begun may give up, hand over, launch or complete. -/
inductive Next (module : Handle) : Phase → Record → Phase → Prop where
  | begin : Next module .idle ⟨owner, .guard .tryBegin true⟩ (.held owner)
  | late (busy : phase.guard ≠ .notStarted) :
      Next module phase ⟨caller, .guard .tryBegin false⟩ phase
  | ask (question : isQuestion request = true) :
      Next module (.held owner) ⟨owner, .asked request⟩ (.held owner)
  | learn (question : isQuestion request = true) :
      Next module (.held owner) ⟨owner, .answered request⟩ (.held owner)
  | giveUp : Next module (.held owner) ⟨owner, .guard .abort true⟩ .idle
  | schedule : Next module (.held owner) ⟨owner, .asked (.schedule module token)⟩
      (.scheduling owner token)
  | scheduled : Next module (.scheduling owner token)
      ⟨owner, .answered (.schedule module token)⟩ (.scheduled owner token)
  | launch : Next module (.scheduled owner token) ⟨owner, .launched launcher registry token⟩
      (.launched owner token)
  | complete : Next module (.launched owner token) ⟨owner, .guard .complete true⟩ (.done owner)
  | close (apart : closer ≠ owner) :
      Next module (.done owner) ⟨closer, .guard .tryTeardown true⟩ (.closing owner closer)
  | early (open_ : phase.guard ≠ .done) :
      Next module phase ⟨caller, .guard .tryTeardown false⟩ phase
  | dispose : Next module (.closing owner closer) ⟨closer, .asked (.dispose module)⟩
      (.disposing owner closer)
  | disposed : Next module (.disposing owner closer) ⟨closer, .answered (.dispose module)⟩
      (.closed owner closer)

/-- An owner at its end has just completed or was there before. -/
theorem Next.owner_cases (next : Next module phase record after)
    (ended : after.owner? = some owner) :
    (∃ token, phase = .launched owner token ∧ record = ⟨owner, .guard .complete true⟩) ∨
      phase.owner? = some owner := by
  cases next <;> simp_all [Phase.owner?]

/-- The logs that lead a new environment to a phase. -/
inductive Spells (module : Handle) : List Record → Phase → Prop where
  | nil : Spells module [] .idle
  | snoc : Spells module log phase → Next module phase record after →
      Spells module (log ++ [record]) after

namespace Spells

theorem countP_scheduling (spells : Spells module log phase) :
    log.countP Record.isScheduling = phase.schedulings := by
  induction spells with
  | nil => rfl
  | snoc _ next ih =>
    rw [List.countP_append, ih]
    cases next with
    | @ask request _ question | @learn request _ question =>
      cases request <;> simp_all [isQuestion, Record.isScheduling]
    | _ => simp [Record.isScheduling, Phase.schedulings]

theorem countP_launch (spells : Spells module log phase) :
    log.countP Record.isLaunch = phase.launches := by
  induction spells with
  | nil => rfl
  | snoc _ next ih =>
    rw [List.countP_append, ih]
    cases next <;> simp [Record.isLaunch, Phase.launches]

theorem countP_disposal (spells : Spells module log phase) :
    log.countP Record.isDisposal = phase.disposals := by
  induction spells with
  | nil => rfl
  | snoc _ next ih =>
    rw [List.countP_append, ih]
    cases next with
    | @ask request _ question | @learn request _ question =>
      cases request <;> simp_all [isQuestion, Record.isDisposal]
    | _ => simp [Record.isDisposal, Phase.disposals]

/-- Every record of a log was a step of the course, taken after the records before it. -/
theorem split (spells : Spells module log phase) :
    ∀ earlier record later, log = earlier ++ record :: later →
      ∃ before after, Spells module earlier before ∧ Next module before record after := by
  induction spells with
  | nil => simp
  | @snoc log phase last after before next ih =>
    intro earlier record later equal
    rcases List.eq_nil_or_concat later with rfl | ⟨later, final, rfl⟩
    · obtain ⟨rfl, same⟩ := List.append_inj' equal rfl
      cases same
      exact ⟨phase, after, before, next⟩
    · have regrouped : log ++ [last] = (earlier ++ record :: later) ++ [final] := by
        simpa using equal
      exact ih earlier record later (List.append_inj' regrouped rfl).1

theorem holds_iff (spells : Spells module log phase) (caller : Nat) :
    holds caller log = true ↔ phase.holder? = some caller := by
  induction spells with
  | nil => simp [holds, deeds, Phase.holder?]
  | @snoc log phase record after _ next ih =>
    simp only [holds] at ih ⊢
    rw [deeds_append, List.foldl_append]
    by_cases own : record.caller = caller <;> cases next <;>
      simp_all [Phase.holder?, Phase.guard]

theorem completed_iff (spells : Spells module log phase) (caller : Nat) :
    ⟨caller, .guard .complete true⟩ ∈ log ↔ phase.owner? = some caller := by
  induction spells with
  | nil => simp [Phase.owner?]
  | snoc _ next ih => cases next <;> grind [Phase.owner?]

theorem closed_iff (spells : Spells module log phase) (caller : Nat) :
    ⟨caller, .guard .tryTeardown true⟩ ∈ log ↔ phase.closer? = some caller := by
  induction spells with
  | nil => simp [Phase.closer?]
  | snoc _ next ih => cases next <;> grind [Phase.closer?]

theorem apart (spells : Spells module log phase) (ended : phase.owner? = some owner)
    (closing : phase.closer? = some closer) : closer ≠ owner := by
  induction spells with
  | nil => simp [Phase.owner?] at ended
  | snoc _ next ih => cases next <;> simp_all [Phase.owner?, Phase.closer?]

/-- The end of a setup always finds the guard as the setup left it. -/
theorem end_changed (spells : Spells module log phase)
    (ended : op = .complete ∨ op = .abort) (member : ⟨caller, .guard op changed⟩ ∈ log) :
    changed = true := by
  obtain ⟨earlier, later, equal⟩ := List.append_of_mem member
  obtain ⟨before, after, _, next⟩ := spells.split earlier _ later equal
  rcases ended with rfl | rfl <;> cases next <;> rfl

theorem scheduled_mem (spells : Spells module log phase)
    (handed : phase.scheduled? = some (owner, token)) :
    ⟨owner, .answered (.schedule module token)⟩ ∈ log := by
  induction spells with
  | nil => simp [Phase.scheduled?] at handed
  | snoc _ next ih => cases next <;> simp_all [Phase.scheduled?]

/-- A setup that has come to its end has handed over its token before. -/
theorem owner_sublist (spells : Spells module log phase) (ended : phase.owner? = some owner) :
    ∃ token, [⟨owner, .answered (.schedule module token)⟩,
      ⟨owner, .guard .complete true⟩].Sublist log := by
  induction spells with
  | nil => simp [Phase.owner?] at ended
  | @snoc log phase record after spells next ih =>
    rcases next.owner_cases ended with ⟨token, rfl, rfl⟩ | before
    · have handed : ⟨owner, .answered (.schedule module token)⟩ ∈ log := spells.scheduled_mem rfl
      exact ⟨token, (List.singleton_sublist.mpr handed).append (.refl _)⟩
    · obtain ⟨token, earlier⟩ := ih before
      exact ⟨token, earlier.trans (List.sublist_append_left ..)⟩

end Spells
end Rendezvous.Interleaving

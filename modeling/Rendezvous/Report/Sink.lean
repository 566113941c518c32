/-! A place to write to. It may have a capacity in bytes; a write that does not fit whole
into what is left is refused, for a reason of its own, and leaves nothing behind. -/
namespace Rendezvous.Report

structure Sink where
  /-- Bytes that are accepted in all; without a number there is no limit. -/
  capacity : Option Nat := none
  /-- Why a write is refused. -/
  refusal : String := "writer full"
  /-- Bytes accepted so far. -/
  used : Nat := 0
  /-- Every write asked for, the latest first, and whether it was accepted. -/
  log : List (String × Bool) := []
  deriving DecidableEq, Repr

namespace Sink

/-- Every write asked for, in order. -/
def calls (sink : Sink) : List (String × Bool) := sink.log.reverse

/-- The accepted text. -/
def written (sink : Sink) : String :=
  String.join ((sink.calls.filter (·.2)).map (·.1))

def fits (sink : Sink) (text : String) : Bool :=
  match sink.capacity with
  | none => true
  | some capacity => sink.used + text.utf8ByteSize ≤ capacity

/-- Takes a text, or says why not. -/
def write (sink : Sink) (text : String) : Except String Unit × Sink :=
  if sink.fits text then
    (.ok (),
      { sink with
        used := sink.used + text.utf8ByteSize
        log := (text, true) :: sink.log })
  else (.error sink.refusal, { sink with log := (text, false) :: sink.log })

/-- Writes one text after the other and stops at the first that is refused. -/
def writeAll : List String → Sink → Except String Unit × Sink
  | [], sink => (.ok (), sink)
  | text :: rest, sink =>
    match sink.write text with
    | (.ok (), sink) => writeAll rest sink
    | (.error refusal, sink) => (.error refusal, sink)

@[simp] theorem written_push (capacity : Option Nat) (refusal : String) (used : Nat)
    (log : List (String × Bool)) (text : String) :
    (⟨capacity, refusal, used, (text, true) :: log⟩ : Sink).written =
      (⟨capacity, refusal, used, log⟩ : Sink).written ++ text := by
  simp [written, calls, String.join_append]

end Sink
end Rendezvous.Report

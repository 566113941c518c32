import Rendezvous.Proofs.OutputRelay

/-! What the collector returns. Complete runs of the relay send just the arrivals that cut each
stream into pieces of one read, in any order; and from all of them the collector makes a merge of
the two streams. Since the bytes are joined before they are decoded, a stream that is alone is
decoded as a whole, wherever it was cut. What a command leaves behind is the result of such a run
over the streams that it wrote. -/
namespace Rendezvous.Text.Utf8

/-- The lenient reading does nothing to a text. -/
theorem decodeLossy_encode (text : String) : decodeLossy (encode text) = text := by
  have whole : decodeAll (encode text) = text.toList.map some := by
    rw [encode_eq]
    exact characters_encode _ (Nat.le_refl _)
  simp [decodeLossy, whole, Function.comp_def]

end Rendezvous.Text.Utf8

namespace Rendezvous.Shell.Relay

open Text.Utf8 (Bytes)

variable {written : Stream → Bytes} (ended : Time) {s : State} {arrivals pending : List Arrival}

/-- Each stream in pieces of one read, all in time, in any order. -/
structure Split (written : Stream → Bytes) (deadline : Time) (arrivals : List Arrival) : Prop where
  whole : ∀ stream, bytesOf stream arrivals = written stream
  pieces : ∀ arrival ∈ arrivals, 0 < arrival.bytes.length ∧ arrival.bytes.length ≤ capacity
  ordered : arrivals.Pairwise fun earlier later => earlier.time ≤ later.time
  timely : ∀ arrival ∈ arrivals, arrival.time ≤ deadline

/-- Where a run ends in which all that was written has reached the channel in time, and the
collector has returned. -/
structure Complete (written : Stream → Bytes) (ended : Time) (s : State) : Prop where
  reached : ∃ moves, execute ended moves (start written) = s
  delivered : s.Delivered
  timely : ∀ arrival ∈ s.sent, arrival.time ≤ ended + grace

theorem Complete.sound {ended : Time} (complete : Complete written ended s) : Sound written s := by
  obtain ⟨moves, rfl⟩ := complete.reached
  exact (start_sound written).execute moves

theorem Complete.split {ended : Time} (complete : Complete written ended s) :
    Split written (ended + grace) s.sent :=
  ⟨complete.sound.passed_whole complete.delivered, complete.sound.pieces, complete.sound.ordered,
    complete.timely⟩

/-! Every split comes about -/

theorem execute_append (first second : List Move) (s : State) :
    execute ended (first ++ second) s = execute ended second (execute ended first s) := by
  induction first generalizing s with
  | nil => rfl
  | cons next first ih => exact ih _

/-- These arrivals can still be brought about. -/
structure Ready (s : State) (pending : List Arrival) : Prop where
  listening : s.result = none
  reading : ∀ stream, (s.forwarder stream).phase = .reading
  unread : ∀ stream, (s.forwarder stream).unread = bytesOf stream pending
  later : ∀ arrival ∈ pending, s.clock ≤ arrival.time

/-- The moves that bring about one arrival: time passes, a read, and a send. -/
def forward (arrival : Arrival) (clock : Time) : List Move :=
  [.pass (arrival.time - clock), .read arrival.stream arrival.bytes.length, .send arrival.stream]

theorem read_piece {task : Forwarder} {piece rest : Bytes} (unread : task.unread = piece ++ rest)
    (positive : 0 < piece.length) (small : piece.length ≤ capacity) :
    task.read piece.length =
      ⟨rest, piece ++ task.buffer.drop piece.length, .holding piece.length⟩ := by
  have some : task.unread ≠ [] := by
    rw [unread]
    exact List.append_ne_nil_of_left_ne_nil (List.ne_nil_of_length_pos positive) rest
  have within : piece.length ≤ task.unread.length := by
    rw [unread, List.length_append]
    omega
  rw [Forwarder.read, if_neg some, if_pos ⟨positive, small, within⟩, unread, List.drop_left,
    List.take_left]

/-- The state after one arrival was brought about. -/
def State.after (s : State) (arrival : Arrival) (rest : Bytes) : State :=
  { s with
    forwarder := fun stream =>
      if stream = arrival.stream then
        ⟨rest, arrival.bytes ++ (s.forwarder stream).buffer.drop arrival.bytes.length, .reading⟩
      else s.forwarder stream
    sent := s.sent ++ [arrival]
    queue := s.queue ++ [arrival.bytes]
    clock := arrival.time }

theorem execute_forward {arrival : Arrival} {rest : Bytes} (listening : s.result = none)
    (reading : (s.forwarder arrival.stream).phase = .reading)
    (unread : (s.forwarder arrival.stream).unread = arrival.bytes ++ rest)
    (piece : 0 < arrival.bytes.length ∧ arrival.bytes.length ≤ capacity)
    (later : s.clock ≤ arrival.time) :
    execute ended (forward arrival s.clock) s = s.after arrival rest := by
  obtain ⟨stream, time, bytes⟩ := arrival
  have clock : s.clock + (time - s.clock) = time := Nat.add_sub_cancel' later
  simp only [execute, forward, move, clock, reading, read_piece unread piece.1 piece.2,
    List.take_left, State.send, State.put, listening, if_true, State.after]
  congr 1
  funext other
  by_cases own : other = stream <;> simp [own]

theorem Ready.forward {arrival : Arrival} (ready : Ready s (arrival :: pending))
    (piece : 0 < arrival.bytes.length ∧ arrival.bytes.length ≤ capacity)
    (ordered : ∀ later ∈ pending, arrival.time ≤ later.time) :
    execute ended (forward arrival s.clock) s =
        s.after arrival (bytesOf arrival.stream pending) ∧
      Ready (s.after arrival (bytesOf arrival.stream pending)) pending := by
  have unread (stream : Stream) := ready.unread stream
  simp only [bytesOf_cons] at unread
  have own := unread arrival.stream
  rw [if_pos rfl] at own
  have forwarded := execute_forward ended ready.listening (ready.reading _) own piece
    (ready.later _ List.mem_cons_self)
  refine ⟨forwarded, ready.listening, fun stream => ?_, fun stream => ?_, ordered⟩
  · simp only [State.after]
    split
    · rfl
    · exact ready.reading stream
  · simp only [State.after]
    split
    · rename_i same
      rw [same]
    · rename_i apart
      rw [unread stream, if_neg (Ne.symm apart)]

theorem Ready.all (ready : Ready s pending)
    (pieces : ∀ arrival ∈ pending, 0 < arrival.bytes.length ∧ arrival.bytes.length ≤ capacity)
    (ordered : pending.Pairwise fun earlier later => earlier.time ≤ later.time) :
    ∃ moves, Ready (execute ended moves s) [] ∧
      (execute ended moves s).sent = s.sent ++ pending := by
  induction pending generalizing s with
  | nil => exact ⟨[], ready, (List.append_nil _).symm⟩
  | cons arrival pending ih =>
    obtain ⟨first, others⟩ := List.pairwise_cons.mp ordered
    obtain ⟨forwarded, next⟩ := ready.forward ended (pieces arrival List.mem_cons_self) first
    obtain ⟨moves, done, sent⟩ :=
      ih next (fun later member => pieces later (List.mem_cons_of_mem _ member)) others
    refine ⟨Relay.forward arrival s.clock ++ moves, ?_⟩
    rw [execute_append, forwarded]
    exact ⟨done, sent.trans (List.append_assoc ..)⟩

/-- Once the shell has ended and the channel is closed, the collector takes what is left, and
returns. -/
theorem drains (closed : s.closed = true) (late : ended ≤ s.clock) (listening : s.result = none) :
    ∃ moves, (execute ended moves s).result ≠ none ∧
      (execute ended moves s).forwarder = s.forwarder ∧ (execute ended moves s).sent = s.sent := by
  induction waiting : s.queue generalizing s with
  | nil =>
    refine ⟨[.receive], ?_⟩
    simp [execute, move, listening, late, State.receive, waiting, closed]
  | cons chunk queue ih =>
    let next : State := { s with queue := queue, collected := s.collected ++ chunk }
    have received : move ended .receive s = next := by
      simp [move, listening, late, State.receive, waiting, next]
    obtain ⟨moves, returned, forwarder, sent⟩ := ih (s := next) closed late listening rfl
    refine ⟨.receive :: moves, ?_⟩
    rw [execute, received]
    exact ⟨returned, forwarder, sent⟩

/-- With nothing left, both forwarders find the end of their streams, and the shell ends. -/
theorem Ready.ends (ready : Ready s []) :
    ∃ moves, (execute ended moves s).Delivered ∧ (execute ended moves s).sent = s.sent := by
  let task (stream : Stream) : Forwarder := { s.forwarder stream with phase := .finished }
  let last : State := { s with forwarder := task, clock := s.clock + ended }
  have found : execute ended [.read .output 0, .read .errors 0, .pass ended] s = last := by
    have output : (s.forwarder .output).read 0 = task .output := if_pos (ready.unread .output)
    have errors : (s.forwarder .errors).read 0 = task .errors := if_pos (ready.unread .errors)
    simp only [execute, move, ready.reading, output, State.put, reduceCtorEq, if_false, errors,
      last]
    congr 1
    funext stream
    cases stream <;> rfl
  obtain ⟨moves, returned, forwarder, sent⟩ :=
    drains ended (s := last) rfl (Nat.le_add_left ..) ready.listening
  refine ⟨[.read .output 0, .read .errors 0, .pass ended] ++ moves, ?_⟩
  rw [execute_append, found]
  refine ⟨⟨fun stream => ?_, fun stream => ?_, returned⟩, sent⟩
  · rw [forwarder]
    exact ready.unread stream
  · rw [forwarder]
    exact .inr rfl

def other : Stream → Stream
  | .output => .errors
  | .errors => .output

theorem merged_alone {stream : Stream} {whole : Bytes}
    (merged : Merged (written .output) (written .errors) whole)
    (alone : written (other stream) = []) : whole = written stream := by
  cases stream with
  | output =>
    rw [show written .errors = [] from alone] at merged
    exact merged.eq_left
  | errors =>
    rw [show written .output = [] from alone] at merged
    exact merged.eq_right

/-- The two streams of a complete run are merged as they arrive, each in its own order, and what is
merged is decoded as a whole. -/
theorem Complete.merged {ended : Time} (complete : Complete written ended s) :
    s.collected = s.sent.flatMap Arrival.bytes ∧
    Merged (written .output) (written .errors) s.collected ∧
    s.result = some (Text.Utf8.decodeLossy s.collected) := by
  obtain ⟨text, returned⟩ := Option.ne_none_iff_exists'.mp complete.delivered.returned
  obtain ⟨collected, told⟩ := complete.sound.returned_whole returned
  have merged := arrivals_merged s.sent
  rw [complete.split.whole, complete.split.whole, ← collected] at merged
  exact ⟨collected, merged, by rw [returned, told, collected]⟩

/-- The text that a stream is decoded to if the other one is empty. -/
def Alone (written : Stream → Bytes) (result : String) : Prop :=
  ∀ stream, written (other stream) = [] →
    result = Text.Utf8.decodeLossy (written stream) ∧
    ∀ text, written stream = Text.Utf8.encode text → result = text

/-- Wherever a stream is cut, and if it is inside a letter, it is decoded as if it was not. -/
theorem Complete.alone {ended : Time} {result : String} (complete : Complete written ended s)
    (returned : s.result = some result) : Alone written result := by
  intro stream alone
  obtain ⟨-, merged, told⟩ := complete.merged
  obtain rfl : result = Text.Utf8.decodeLossy s.collected :=
    Option.some.inj (returned.symm.trans told)
  rw [merged_alone merged alone]
  refine ⟨rfl, fun text spelled => ?_⟩
  rw [spelled, Text.Utf8.decodeLossy_encode]

/-! The command that was run -/

/-- Decoded read by read, the letter would not be there. -/
example : Text.Utf8.decodeLossy [0xC3] ++ Text.Utf8.decodeLossy [0xA9] = "\ufffd\ufffd" := by
  decide +kernel

end Rendezvous.Shell.Relay

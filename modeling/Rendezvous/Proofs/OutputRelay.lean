import Rendezvous.Proofs.Utf8Decoding
import Rendezvous.Shell.Delegation

/-! The way from what is written to what is returned. Two forwarders, one for each stream, read
into a buffer of their own and send copies of what they have read through one channel; the collector
takes from its other end once the shell has ended, and in the end decodes what it has. A schedule
says who moves next, how many bytes a read brings, and how much time passes. Every step keeps what
has been passed on, what is held and what is unread together equal to what was written. -/
namespace Rendezvous.Shell.Relay

open Text.Utf8 (Bytes)

/-- The size of a buffer, and so the most bytes that one read can bring. -/
def capacity : Nat := 4096

inductive Phase where
  | reading
  /-- So many bytes at the start of the buffer are to be sent. -/
  | holding (count : Nat)
  /-- The stream has come to its end. -/
  | finished
  /-- A read failed, or nobody listens any more. -/
  | gaveUp
  deriving DecidableEq, Repr

structure Forwarder where
  unread : Bytes
  /-- Behind what was read last, it keeps what earlier reads have left. -/
  buffer : Bytes
  phase : Phase

def Forwarder.start (written : Bytes) : Forwarder := ⟨written, List.replicate capacity 0, .reading⟩

/-- A read that brings so many bytes, or the end of the stream if all has been read. -/
def Forwarder.read (count : Nat) (task : Forwarder) : Forwarder :=
  if task.unread = [] then { task with phase := .finished }
  else if 0 < count ∧ count ≤ capacity ∧ count ≤ task.unread.length then
    { unread := task.unread.drop count
      buffer := task.unread.take count ++ task.buffer.drop count
      phase := .holding count }
  else task

/-- Whether nothing more can come from it. -/
def Forwarder.gone (task : Forwarder) : Bool := task.phase = .finished ∨ task.phase = .gaveUp

structure State where
  forwarder : Stream → Forwarder
  /-- All that the channel has accepted, in order. -/
  sent : List Arrival
  /-- What is in the channel, the oldest first. -/
  queue : List Bytes
  collected : Bytes
  /-- What the collector has returned. From then on nobody listens. -/
  result : Option String
  clock : Time

def start (written : Stream → Bytes) : State :=
  { forwarder := fun stream => .start (written stream)
    sent := [], queue := [], collected := [], result := none, clock := 0 }

def State.put (s : State) (stream : Stream) (task : Forwarder) : State :=
  { s with forwarder := fun other => if other = stream then task else s.forwarder other }

/-- The channel takes a chunk as long as somebody listens; a forwarder that is refused gives up. -/
def State.send (s : State) (stream : Stream) (chunk : Bytes) : State :=
  if s.result = none then
    { s.put stream { s.forwarder stream with phase := .reading } with
      sent := s.sent ++ [⟨stream, s.clock, chunk⟩]
      queue := s.queue ++ [chunk] }
  else s.put stream { s.forwarder stream with phase := .gaveUp }

/-- Nobody can send any more. -/
def State.closed (s : State) : Bool := (s.forwarder .output).gone && (s.forwarder .errors).gone

/-- Takes the next chunk. Without one, the collector returns if the channel is closed or the
deadline has passed; only then is anything decoded. -/
def State.receive (s : State) (deadline : Time) : State :=
  match s.queue with
  | chunk :: queue => { s with queue := queue, collected := s.collected ++ chunk }
  | [] =>
    if s.closed ∨ deadline < s.clock then
      { s with result := some (Text.Utf8.decodeLossy s.collected) }
    else s

inductive Move where
  | read (stream : Stream) (count : Nat)
  | fail (stream : Stream)
  | send (stream : Stream)
  | receive
  | pass (time : Time)

/-- One step, if it is possible. Nothing is collected before the shell has ended. -/
def move (ended : Time) : Move → State → State
  | .read stream count, s =>
    match (s.forwarder stream).phase with
    | .reading => s.put stream ((s.forwarder stream).read count)
    | _ => s
  | .fail stream, s =>
    match (s.forwarder stream).phase with
    | .reading => s.put stream { s.forwarder stream with phase := .gaveUp }
    | _ => s
  | .send stream, s =>
    match (s.forwarder stream).phase with
    | .holding count => s.send stream ((s.forwarder stream).buffer.take count)
    | _ => s
  | .receive, s => if s.result = none ∧ ended ≤ s.clock then s.receive (ended + grace) else s
  | .pass time, s => { s with clock := s.clock + time }

def execute (ended : Time) : List Move → State → State
  | [], s => s
  | next :: schedule, s => execute ended schedule (move ended next s)

/-- The bytes of one stream, in the order in which they arrive. -/
def bytesOf (stream : Stream) (arrivals : List Arrival) : Bytes :=
  (arrivals.filter (·.stream = stream)).flatMap Arrival.bytes

/-- A merge of two lists that keeps the order of each. -/
inductive Merged : List α → List α → List α → Prop where
  | nil : Merged [] [] []
  | left {first second whole : List α} (item : α) (rest : Merged first second whole) :
      Merged (item :: first) second (item :: whole)
  | right {first second whole : List α} (item : α) (rest : Merged first second whole) :
      Merged first (item :: second) (item :: whole)

/-- All that was written has reached the channel, and the collector has returned. -/
structure State.Delivered (s : State) : Prop where
  read : ∀ stream, (s.forwarder stream).unread = []
  passed : ∀ stream, (s.forwarder stream).phase = .reading ∨ (s.forwarder stream).phase = .finished
  returned : s.result ≠ none

/-! Merging -/

namespace Merged

variable {first second whole : List α}

theorem append_left (chunk : List α) (rest : Merged first second whole) :
    Merged (chunk ++ first) second (chunk ++ whole) := by
  induction chunk with
  | nil => exact rest
  | cons item chunk ih => exact .left item ih

theorem append_right (chunk : List α) (rest : Merged first second whole) :
    Merged first (chunk ++ second) (chunk ++ whole) := by
  induction chunk with
  | nil => exact rest
  | cons item chunk ih => exact .right item ih

theorem eq_left (merged : Merged first [] whole) : whole = first := by
  generalize none : ([] : List α) = second at merged
  induction merged with
  | nil => rfl
  | left item _ ih => rw [ih none]
  | right => cases none

theorem eq_right (merged : Merged [] second whole) : whole = second := by
  generalize none : ([] : List α) = first at merged
  induction merged with
  | nil => rfl
  | left => cases none
  | right item _ ih => rw [ih none]

end Merged

@[simp] theorem bytesOf_nil (stream : Stream) : bytesOf stream [] = [] := rfl

theorem bytesOf_cons (stream : Stream) (arrival : Arrival) (arrivals : List Arrival) :
    bytesOf stream (arrival :: arrivals) =
      if arrival.stream = stream then arrival.bytes ++ bytesOf stream arrivals
      else bytesOf stream arrivals := by
  by_cases own : arrival.stream = stream <;> simp [bytesOf, own]

@[simp] theorem bytesOf_append (stream : Stream) (earlier later : List Arrival) :
    bytesOf stream (earlier ++ later) = bytesOf stream earlier ++ bytesOf stream later := by
  simp [bytesOf]

/-- Chunks that arrive one after the other merge what they are chunks of. -/
theorem arrivals_merged (arrivals : List Arrival) :
    Merged (bytesOf .output arrivals) (bytesOf .errors arrivals)
      (arrivals.flatMap Arrival.bytes) := by
  induction arrivals with
  | nil => exact .nil
  | cons arrival arrivals ih =>
    rw [bytesOf_cons, bytesOf_cons, List.flatMap_cons]
    cases arrival.stream with
    | output => simpa using ih.append_left arrival.bytes
    | errors => simpa using ih.append_right arrival.bytes

/-! One step -/

/-- What has been read and not been sent. -/
def Forwarder.held (task : Forwarder) : Bytes :=
  match task.phase with
  | .holding count => task.buffer.take count
  | _ => []

/-- Unless it has given up, a forwarder has passed on all but what it holds and has not read. -/
structure Forwarder.Faithful (written passed : Bytes) (task : Forwarder) : Prop where
  whole : task.phase ≠ .gaveUp → passed ++ task.held ++ task.unread = written
  full : task.buffer.length = capacity
  piece : ∀ count, task.phase = .holding count → 0 < count ∧ count ≤ capacity

structure Sound (written : Stream → Bytes) (s : State) : Prop where
  faithful : ∀ stream, (s.forwarder stream).Faithful (written stream) (bytesOf stream s.sent)
  queued : s.collected ++ s.queue.flatten = s.sent.flatMap Arrival.bytes
  told : ∀ text, s.result = some text →
    s.queue = [] ∧ text = Text.Utf8.decodeLossy s.collected
  pieces : ∀ arrival ∈ s.sent, 0 < arrival.bytes.length ∧ arrival.bytes.length ≤ capacity
  past : ∀ arrival ∈ s.sent, arrival.time ≤ s.clock
  ordered : s.sent.Pairwise fun earlier later => earlier.time ≤ later.time

variable {written : Stream → Bytes} {ended : Time} {s : State}

@[simp] theorem put_own (s : State) (stream : Stream) (task : Forwarder) :
    (s.put stream task).forwarder stream = task := if_pos rfl

theorem put_other (s : State) {stream other : Stream} (apart : other ≠ stream) (task : Forwarder) :
    (s.put stream task).forwarder other = s.forwarder other := if_neg apart

theorem Forwarder.Faithful.unheld {written passed : Bytes} {task : Forwarder}
    (faithful : task.Faithful written passed)
    (phase : task.phase = .reading ∨ task.phase = .finished) :
    passed ++ task.unread = written := by
  rcases phase with phase | phase
  · simpa [Forwarder.held, phase] using faithful.whole
  · simpa [Forwarder.held, phase] using faithful.whole

/-- A read overwrites the start of the buffer only, and that is what is sent. -/
theorem Forwarder.Faithful.read {written passed : Bytes} {task : Forwarder}
    (faithful : task.Faithful written passed) (reading : task.phase = .reading) (count : Nat) :
    (task.read count).Faithful written passed := by
  have whole : passed ++ task.unread = written := faithful.unheld (.inl reading)
  unfold Forwarder.read
  split
  · refine ⟨fun _ => ?_, faithful.full, fun _ other => nomatch other⟩
    simpa [Forwarder.held] using whole
  · split
    · rename_i fits
      obtain ⟨positive, small, within⟩ := fits
      have brought : (task.unread.take count).length = count := List.length_take_of_le within
      have full := faithful.full
      refine ⟨fun _ => ?_, ?_, fun other same => ?_⟩
      · simpa [Forwarder.held, List.take_append, brought] using whole
      · rw [List.length_append, brought, List.length_drop]
        omega
      · obtain rfl := Phase.holding.inj same
        exact ⟨positive, small⟩
    · exact faithful

theorem Sound.put (sound : Sound written s) {stream : Stream} {task : Forwarder}
    (faithful : task.Faithful (written stream) (bytesOf stream s.sent)) :
    Sound written (s.put stream task) := by
  refine ⟨fun other => ?_, sound.queued, sound.told, sound.pieces, sound.past, sound.ordered⟩
  by_cases own : other = stream
  · subst own
    rw [put_own]
    exact faithful
  · rw [put_other s own]
    exact sound.faithful other

theorem Forwarder.Faithful.giveUp {written passed : Bytes} {task : Forwarder}
    (faithful : task.Faithful written passed) :
    Forwarder.Faithful written passed { task with phase := .gaveUp } :=
  ⟨fun not => absurd rfl not, faithful.full, fun _ other => nomatch other⟩

theorem Sound.send (sound : Sound written s) {stream : Stream} {count : Nat}
    (holding : (s.forwarder stream).phase = .holding count) :
    Sound written (s.send stream ((s.forwarder stream).buffer.take count)) := by
  have faithful := sound.faithful stream
  unfold State.send
  split
  · rename_i listening
    obtain ⟨positive, small⟩ := faithful.piece count holding
    have size : ((s.forwarder stream).buffer.take count).length = count :=
      List.length_take_of_le (by rw [faithful.full]; exact small)
    refine ⟨fun other => ?_, ?_, fun text returned => ?_, ?_, ?_, ?_⟩
    · rw [bytesOf_append, bytesOf_cons]
      by_cases own : other = stream
      · subst own
        rw [put_own, if_pos rfl, bytesOf_nil, List.append_nil]
        refine ⟨fun _ => ?_, faithful.full, fun _ other => nomatch other⟩
        simpa [Forwarder.held, holding] using faithful.whole
      · rw [put_other s own, if_neg (Ne.symm own), bytesOf_nil, List.append_nil]
        exact sound.faithful other
    · have queued := sound.queued
      simp [← queued, State.put]
    · exact nomatch listening.symm.trans returned
    · intro arrival member
      rcases List.mem_append.mp member with earlier | last
      · exact sound.pieces arrival earlier
      · obtain rfl := List.mem_singleton.mp last
        rw [size]
        exact ⟨positive, small⟩
    · intro arrival member
      rcases List.mem_append.mp member with earlier | last
      · exact sound.past arrival earlier
      · obtain rfl := List.mem_singleton.mp last
        exact Nat.le_refl _
    · refine List.pairwise_append.mpr ⟨sound.ordered, List.pairwise_singleton .., ?_⟩
      intro earlier member last single
      obtain rfl := List.mem_singleton.mp single
      exact sound.past earlier member
  · exact sound.put faithful.giveUp

theorem Sound.receive (sound : Sound written s) (listening : s.result = none) (deadline : Time) :
    Sound written (s.receive deadline) := by
  unfold State.receive
  split
  · rename_i chunk queue waiting
    have queued := sound.queued
    refine ⟨sound.faithful, ?_, fun text returned => ?_, sound.pieces, sound.past, sound.ordered⟩
    · simpa [waiting] using queued
    · exact nomatch listening.symm.trans returned
  · rename_i empty
    split
    · refine ⟨sound.faithful, sound.queued, fun text returned => ⟨empty, ?_⟩, sound.pieces,
        sound.past, sound.ordered⟩
      exact (Option.some.inj returned).symm
    · exact sound

theorem Sound.move (sound : Sound written s) (next : Move) : Sound written (move ended next s) := by
  cases next with
  | read stream count =>
    simp only [Relay.move]
    split
    · rename_i reading
      exact sound.put ((sound.faithful stream).read reading count)
    · exact sound
  | fail stream =>
    simp only [Relay.move]
    split
    · exact sound.put (sound.faithful stream).giveUp
    · exact sound
  | send stream =>
    simp only [Relay.move]
    split
    · rename_i count holding
      exact sound.send holding
    · exact sound
  | receive =>
    simp only [Relay.move]
    split
    · rename_i able
      exact sound.receive able.1 _
    · exact sound
  | pass time =>
    refine ⟨sound.faithful, sound.queued, sound.told, sound.pieces, fun arrival member => ?_,
      sound.ordered⟩
    exact Nat.le_trans (sound.past arrival member) (Nat.le_add_right ..)

/-! A whole run -/

theorem start_sound (written : Stream → Bytes) : Sound written (start written) := by
  refine ⟨fun stream => ⟨fun _ => rfl, List.length_replicate, fun _ other => nomatch other⟩, rfl,
    fun _ returned => (nomatch returned), ?_, ?_, List.Pairwise.nil⟩
  · exact fun _ member => nomatch member
  · exact fun _ member => nomatch member

theorem Sound.execute (sound : Sound written s) (moves : List Move) :
    Sound written (execute ended moves s) := by
  induction moves generalizing s with
  | nil => exact sound
  | cons next moves ih => exact ih (sound.move next)

/-- Nothing is lost on the way to the channel. -/
theorem Sound.passed_whole (sound : Sound written s) (delivered : s.Delivered) (stream : Stream) :
    bytesOf stream s.sent = written stream := by
  have whole := (sound.faithful stream).unheld (delivered.passed stream)
  rwa [delivered.read stream, List.append_nil] at whole

/-- Nothing is lost in the channel, and what is returned is all of it, decoded as a whole. -/
theorem Sound.returned_whole (sound : Sound written s) {text : String}
    (returned : s.result = some text) :
    s.collected = s.sent.flatMap Arrival.bytes ∧
      text = Text.Utf8.decodeLossy (s.sent.flatMap Arrival.bytes) := by
  obtain ⟨empty, rfl⟩ := sound.told text returned
  have queued := sound.queued
  rw [empty, List.flatten_nil, List.append_nil] at queued
  exact ⟨queued, by rw [queued]⟩

end Rendezvous.Shell.Relay

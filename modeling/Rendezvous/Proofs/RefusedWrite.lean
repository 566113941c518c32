import Rendezvous.Proofs.CoverageStream

/-! A report that meets the end of a sink stops there. The sink counts bytes while chunks are cut in
characters, and each line is written in two pieces, of which the second is short; but a piece that
would still fit is not tried any more once a longer one was refused. So what has been written ends
with a line, or with one that lacks its end only. -/
namespace Rendezvous.Report

namespace Sink

variable (refusal : String) {capacity used : Nat} {texts : List String}

theorem write_fitting {text : String} (fits : used + text.utf8ByteSize ≤ capacity)
    (log : List (String × Bool)) :
    write ⟨some capacity, refusal, used, log⟩ text =
      (.ok (), ⟨some capacity, refusal, used + text.utf8ByteSize, (text, true) :: log⟩) := by
  simp [write, Sink.fits, fits]

theorem write_refused {text : String} (exceeds : capacity < used + text.utf8ByteSize)
    (log : List (String × Bool)) :
    write ⟨some capacity, refusal, used, log⟩ text =
      (.error refusal, ⟨some capacity, refusal, used, (text, false) :: log⟩) := by
  simp [write, Sink.fits, exceeds]

/-- Texts that fit together are all accepted. -/
theorem writeAll_fitting (fits : used + (String.join texts).utf8ByteSize ≤ capacity)
    (log : List (String × Bool)) :
    writeAll texts ⟨some capacity, refusal, used, log⟩ =
      (.ok (), ⟨some capacity, refusal, used + (String.join texts).utf8ByteSize,
        (texts.map (·, true)).reverse ++ log⟩) := by
  induction texts generalizing used log with
  | nil => simp [writeAll]
  | cons text rest ih =>
    rw [String.join_cons, String.utf8ByteSize_append, ← Nat.add_assoc] at fits ⊢
    have first : used + text.utf8ByteSize ≤ capacity := by omega
    rw [writeAll, write_fitting refusal first]
    simpa using ih fits ((text, true) :: log)

/-- Of texts that do not fit together, those before the first that does not fit are accepted; that
one is refused, for the reason that is returned, and none behind it is asked for. -/
theorem writeAll_overflowing (start : used ≤ capacity)
    (exceeds : capacity < used + (String.join texts).utf8ByteSize) (log : List (String × Bool)) :
    ∃ taken refused behind, texts = taken ++ refused :: behind ∧
      used + (String.join taken).utf8ByteSize ≤ capacity ∧
      writeAll texts ⟨some capacity, refusal, used, log⟩ =
        (.error refusal, ⟨some capacity, refusal, used + (String.join taken).utf8ByteSize,
          (refused, false) :: (taken.map (·, true)).reverse ++ log⟩) := by
  induction texts generalizing used log with
  | nil =>
    simp at exceeds
    omega
  | cons text rest ih =>
    rw [String.join_cons, String.utf8ByteSize_append, ← Nat.add_assoc] at exceeds
    by_cases first : used + text.utf8ByteSize ≤ capacity
    · obtain ⟨taken, refused, behind, rfl, within, stopped⟩ :=
        ih first exceeds ((text, true) :: log)
      refine ⟨text :: taken, refused, behind, rfl, ?_, ?_⟩
      · rw [String.join_cons, String.utf8ByteSize_append]
        omega
      · rw [writeAll, write_fitting refusal first]
        simpa [Nat.add_assoc] using stopped
    · refine ⟨[], text, rest, rfl, by simpa using start, ?_⟩
      rw [writeAll, write_refused refusal (Nat.lt_of_not_le first)]
      simp

theorem calls_refused (taken : List String) (last : String) (limit : Option Nat) (used : Nat) :
    calls ⟨limit, refusal, used, (last, false) :: (taken.map (·, true)).reverse⟩ =
      taken.map (·, true) ++ [(last, false)] := by
  simp [calls]

theorem written_accepted (taken : List String) (limit : Option Nat) (used : Nat) :
    written ⟨limit, refusal, used, (taken.map (·, true)).reverse⟩ = String.join taken := by
  simp [written, calls, List.filter_map, Function.comp_def]

/-- A refused write leaves nothing behind. -/
theorem written_refused (taken : List String) (last : String) (limit : Option Nat) (used : Nat) :
    written ⟨limit, refusal, used, (last, false) :: (taken.map (·, true)).reverse⟩ =
      String.join taken := by
  simp [written, calls, List.filter_map, Function.comp_def]

end Sink

namespace Coverage

/-- The writes before some write are those of whole lines, and maybe of one more without its end. -/
theorem writes_before {lines taken behind : List String} {refused : String}
    (cut : writes lines = taken ++ refused :: behind) :
    ∃ before line after, lines = before ++ line :: after ∧
      (taken = writes before ∧ refused = line ∨
        taken = writes before ++ [line] ∧ refused = "\n") := by
  induction lines generalizing taken with
  | nil => simp [writes] at cut
  | cons line lines ih =>
    have unfolded : writes (line :: lines) = line :: "\n" :: writes lines := rfl
    rw [unfolded] at cut
    rcases taken with _ | ⟨first, _ | ⟨second, taken⟩⟩
    · obtain ⟨rfl, -⟩ := List.cons.inj cut
      exact ⟨[], line, lines, rfl, .inl ⟨rfl, rfl⟩⟩
    · obtain ⟨rfl, ended⟩ := List.cons.inj cut
      obtain ⟨rfl, -⟩ := List.cons.inj ended
      exact ⟨[], line, lines, rfl, .inr ⟨rfl, rfl⟩⟩
    · obtain ⟨rfl, ended⟩ := List.cons.inj cut
      obtain ⟨rfl, later⟩ := List.cons.inj ended
      obtain ⟨before, next, after, rfl, shape⟩ := ih later
      refine ⟨line :: before, next, after, rfl, ?_⟩
      rcases shape with ⟨rfl, rfl⟩ | ⟨rfl, rfl⟩
      · exact .inl ⟨rfl, rfl⟩
      · exact .inr ⟨rfl, rfl⟩

/-- What was asked of a sink and what it holds when a report of these lines has met its end. -/
structure Stopped (lines : List String) (limit : Nat) (sink : Sink) : Prop where
  /-- The writes asked for are the first ones of the report, and only the last was refused. -/
  refused : ∃ taken last, taken ++ [last] <+: writes lines ∧
    sink.calls = taken.map (·, true) ++ [(last, false)]
  within : sink.written.utf8ByteSize ≤ limit
  /-- What is written is the beginning of the report. -/
  beginning : ∃ missing, String.join (lines.map (· ++ "\n")) = sink.written ++ missing
  /-- It ends with a line or right before the end of one. -/
  atLineEnd : ∃ before line after, lines = before ++ line :: after ∧
    (sink.written = String.join (before.map (· ++ "\n")) ∨
      sink.written = String.join (before.map (· ++ "\n")) ++ line)

theorem stopped_of_writes {lines taken behind : List String} {last refusal : String}
    {limit used : Nat} (cut : writes lines = taken ++ last :: behind)
    (within : (String.join taken).utf8ByteSize ≤ limit) :
    Stopped lines limit
      ⟨some limit, refusal, used, (last, false) :: (taken.map (·, true)).reverse⟩ := by
  have written := Sink.written_refused refusal taken last (some limit) used
  refine ⟨⟨taken, last, ⟨behind, by simp [cut]⟩, Sink.calls_refused ..⟩, by rwa [written], ?_, ?_⟩
  · refine ⟨String.join (last :: behind), ?_⟩
    rw [written, ← join_writes_eq, cut, String.join_append]
  · obtain ⟨before, line, after, rfl, shape⟩ := writes_before cut
    refine ⟨before, line, after, rfl, ?_⟩
    rw [written]
    rcases shape with ⟨rfl, -⟩ | ⟨rfl, -⟩
    · exact .inl (join_writes_eq before)
    · exact .inr (by simp [String.join_append, join_writes_eq])

/-- A report goes into a sink with a limit in bytes just if it fits as a whole, and is then written
as a whole. Otherwise the error says what the sink has said of the write that it refused; this was
the last that was asked for, and what has been written before is the beginning of the report up to a
line end or right before one. -/
theorem written_whole_or_stopped (payload : Option Json.Value) (chunkLength : UInt64)
    (limit : Nat) (refusal : String) :
    let lines := lines (payload.map Json.Value.compact) chunkLength
    let report := whole payload chunkLength
    let outcome := emit payload chunkLength { capacity := some limit, refusal }
    ((∃ count, outcome.1 = .ok count) ↔ report.utf8ByteSize ≤ limit) ∧
    (report.utf8ByteSize ≤ limit →
      outcome.1 = .ok lines.length ∧ outcome.2.written = report) ∧
    (limit < report.utf8ByteSize →
      outcome.1 = .error (.io refusal) ∧ Stopped lines limit outcome.2) := by
  intro lines report outcome
  have joined : String.join (writes lines) = report := join_writes_eq lines
  by_cases fits : report.utf8ByteSize ≤ limit
  · have within : 0 + (String.join (writes lines)).utf8ByteSize ≤ limit := by
      rwa [joined, Nat.zero_add]
    have taken := Sink.writeAll_fitting refusal within []
    have made : outcome.1 = .ok lines.length ∧ outcome.2.written = report := by
      simp only [outcome, emit]
      rw [taken, List.append_nil]
      exact ⟨rfl, (Sink.written_accepted ..).trans joined⟩
    refine ⟨⟨fun _ => fits, fun _ => ⟨_, made.1⟩⟩, fun _ => made, fun exceeds => ?_⟩
    omega
  · have exceeds : limit < report.utf8ByteSize := by omega
    have beyond : limit < 0 + (String.join (writes lines)).utf8ByteSize := by
      rwa [joined, Nat.zero_add]
    obtain ⟨taken, last, behind, cut, within, ended⟩ :=
      Sink.writeAll_overflowing refusal (Nat.zero_le limit) beyond []
    rw [Nat.zero_add] at within
    have made : outcome.1 = .error (.io refusal) ∧ Stopped lines limit outcome.2 := by
      simp only [outcome, emit]
      rw [ended, List.append_nil]
      exact ⟨rfl, stopped_of_writes cut within⟩
    refine ⟨⟨?_, fun fits => by omega⟩, fun fits => by omega, fun _ => made⟩
    rintro ⟨count, accepted⟩
    rw [made.1] at accepted
    cases accepted

/-- A line end of one byte is not written any more when the line before it was refused. -/
example : (emit none 500 { capacity := some 96 }).2.calls =
    (lines none 500).map (·, false) := by decide +kernel

end Coverage

end Rendezvous.Report

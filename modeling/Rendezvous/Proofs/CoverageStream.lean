import Mathlib.Data.List.Basic
import Rendezvous.Proofs.CoverageChunks
import Rendezvous.Proofs.JsonLine

/-! The stream that a coverage report writes can be read back: it is cut at its line ends, each
line gives up the key, and the chunks are joined. A chunk may end anywhere, even inside an escape;
what keeps the lines apart is that a compact text has no line end of its own. -/
namespace Rendezvous.Report

namespace Sink

/-- A sink without a limit takes every text. -/
theorem writeAll_unlimited (texts : List String) (refusal : String) (used : Nat)
    (log : List (String × Bool)) :
    ∃ after, writeAll texts ⟨none, refusal, used, log⟩ = (.ok (), after) ∧
      after.written = (⟨none, refusal, used, log⟩ : Sink).written ++ String.join texts := by
  induction texts generalizing used log with
  | nil => exact ⟨_, rfl, by simp⟩
  | cons text rest ih =>
    obtain ⟨after, taken, written⟩ := ih (used + text.utf8ByteSize) ((text, true) :: log)
    refine ⟨after, ?_, ?_⟩
    · simpa only [writeAll, write, fits, if_true] using taken
    · rw [written, written_push, String.join_cons, String.append_assoc]
      rfl

end Sink

namespace Coverage

/-- What a line of data begins with: the key and one space. -/
def lead : List Char := dataKey.toList ++ [' ']

/-- What a line of data holds behind its key and one space. -/
def body? (line : List Char) : Option (List Char) := line.dropPrefix? lead

/-- What lines of data hold together. -/
def joinBodies? : List (List Char) → Option (List Char)
  | [] => some []
  | line :: rest => return (← body? line) ++ (← joinBodies? rest)

/-- The characters of lines that are each ended by a line end. -/
def stream (lines : List (List Char)) : List Char := lines.flatMap (· ++ ['\n'])

theorem join_writes (lines : List String) :
    (String.join (writes lines)).toList = stream (lines.map String.toList) := by
  simp [writes, stream, String.toList_join, List.flatMap_assoc, List.flatMap_map]

theorem join_writes_eq (lines : List String) :
    String.join (writes lines) = String.join (lines.map (· ++ "\n")) := by
  rw [← String.toList_inj, join_writes]
  simp [stream, String.toList_join, List.flatMap_map]

/-- All that is written of a report: its lines, each with its end. -/
def whole (payload : Option Json.Value) (chunkLength : UInt64) : String :=
  String.join ((lines (payload.map Json.Value.compact) chunkLength).map (· ++ "\n"))

/-- A report goes as a whole into a sink without a limit. -/
theorem emit_unlimited (payload : Option Json.Value) (chunkLength : UInt64) (refusal : String)
    (used : Nat) (log : List (String × Bool)) :
    ∃ count after, emit payload chunkLength ⟨none, refusal, used, log⟩ = (.ok count, after) ∧
      after.written =
        (⟨none, refusal, used, log⟩ : Sink).written ++ whole payload chunkLength := by
  let report := lines (payload.map Json.Value.compact) chunkLength
  obtain ⟨after, taken, written⟩ := Sink.writeAll_unlimited (writes report) refusal used log
  refine ⟨report.length, after, ?_, by rw [written, join_writes_eq, whole]⟩
  simp only [emit, report] at taken ⊢
  rw [taken]

section Lines

variable {lines : List (List Char)} (whole : ∀ line ∈ lines, '\n' ∉ line)
include whole

theorem splitOn_stream : (stream lines).splitOn '\n' = lines ++ [[]] := by
  induction lines with
  | nil => rfl
  | cons line rest ih =>
    have first : '\n' ∉ line := whole line List.mem_cons_self
    have others := ih fun line member => whole line (List.mem_cons_of_mem _ member)
    simp only [stream, List.flatMap_cons, List.append_assoc, List.singleton_append] at others ⊢
    rw [List.splitOn_append_cons_self_of_not_mem first, others]
    rfl

theorem count_stream : (stream lines).count '\n' = lines.length := by
  induction lines with
  | nil => rfl
  | cons line rest ih =>
    have first : line.count '\n' = 0 := List.count_eq_zero.mpr (whole line List.mem_cons_self)
    have others := ih fun line member => whole line (List.mem_cons_of_mem _ member)
    simp only [stream, List.flatMap_cons, List.count_append, List.length_cons] at others ⊢
    rw [first, others]
    simp [Nat.add_comm]

end Lines

theorem joinBodies?_lines (chunks : List (List Char)) :
    joinBodies? (chunks.map (lead ++ ·)) = some chunks.flatten := by
  induction chunks with
  | nil => rfl
  | cons chunk rest ih =>
    have first : body? (lead ++ chunk) = some chunk :=
      List.dropPrefix?_append_of_beq _ (by simp)
    simp [joinBodies?, first, ih]

/-- The lines of data in which a text is reported have no line end, if the text has none. -/
theorem lines_unbroken {text : List Char} {width : Nat} {chunks : List (List Char)}
    (unbroken : Json.Unbroken text) (cut : Cut text width chunks) :
    ∀ line ∈ chunks.map (lead ++ ·), '\n' ∉ line := by
  intro line member
  obtain ⟨chunk, present, rfl⟩ := List.mem_map.mp member
  have part : Json.Unbroken chunk := by
    refine unbroken.of_subset fun c inside => ?_
    rw [← cut.joined]
    exact List.mem_flatten.mpr ⟨chunk, present, inside⟩
  have key : Json.Unbroken lead := by decide
  exact (Json.unbroken_append.mpr ⟨key, part⟩).newline

/-- The report of a value, written to a sink without a limit: as many lines are counted as line
ends are written, cutting at them leaves exactly these lines and nothing behind them, and what
the lines hold together is the compact text, whatever the length of a chunk. -/
theorem emitted_stream_decodes (value : Json.Value) (chunkLength : UInt64) (refusal : String)
    (used : Nat) (log : List (String × Bool)) :
    ∃ count after output,
      emit (some value) chunkLength ⟨none, refusal, used, log⟩ = (.ok count, after) ∧
      after.written = (⟨none, refusal, used, log⟩ : Sink).written ++ output ∧
      output.toList.count '\n' = count ∧
      ∃ lines, output.toList.splitOn '\n' = lines ++ [[]] ∧ lines.length = count ∧
        joinBodies? lines = some value.compact.toList := by
  let report := lines (some value.compact) chunkLength
  have cut := chunks_cut value.compact.toList (width_pos chunkLength)
  have unbroken : Json.Unbroken value.compact.toList := by
    simpa [Json.Value.compact] using value.chars_unbroken
  have whole := lines_unbroken unbroken cut
  have led : report.map String.toList =
      (chunks value.compact.toList (width chunkLength)).map (lead ++ ·) := by
    simp [report, lines, key, text, lead]
  rw [← led] at whole
  obtain ⟨after, taken, written⟩ := Sink.writeAll_unlimited (writes report) refusal used log
  refine ⟨report.length, after, String.join (writes report), ?_, written, ?_,
    report.map String.toList, ?_, List.length_map .., ?_⟩
  · simp only [emit, Option.map_some, report, taken]
  · rw [join_writes, count_stream whole, List.length_map]
  · rw [join_writes, splitOn_stream whole]
  · rw [led, joinBodies?_lines, cut.joined]

/-- A chunk may end inside an escape. -/
example : (emit (some (.string "\x01")) 3 {}).2.written =
    dataKey ++ " \"\\u\n" ++ dataKey ++ " 000\n" ++ dataKey ++ " 1\"\n" := by decide +kernel

end Coverage

end Rendezvous.Report

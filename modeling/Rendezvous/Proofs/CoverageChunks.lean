import Rendezvous.Report.Coverage

/-! Coverage chunks lose nothing. The ends of a chunk are computed from its index and clamped to
the text; every chunk is therefore a window on the text, and the first `count` windows together
are its first `count * width` characters. -/
namespace Rendezvous.Report.Coverage

/-- A text in chunks of `width` characters each, but for the last one, which is shorter and may
be empty. -/
structure Cut (text : List Char) (width : Nat) (chunks : List (List Char)) : Prop where
  count : chunks.length = text.length / width + 1
  full : ∀ chunk ∈ chunks.dropLast, chunk.length = width
  last : chunks.getLast?.map List.length = some (text.length % width)
  joined : chunks.flatten = text

theorem width_pos (chunkLength : UInt64) : 0 < width chunkLength := by
  simp only [width]
  omega

theorem width_eq (chunkLength : UInt64) :
    width chunkLength = if chunkLength = 0 then 1 else chunkLength.toNat := by
  simp only [width]
  split
  · rename_i zero
    simp [zero]
  · rename_i positive
    have : chunkLength.toNat ≠ 0 := fun zero => positive (UInt64.toNat_inj.mp zero)
    omega

/-- A chunk is a window on the text: clamping its ends does no harm. -/
theorem chunk_eq (chars : List Char) (width index : Nat) :
    chunk chars.toArray width index = (chars.drop (index * width)).take width := by
  have next : (index + 1) * width = index * width + width := Nat.succ_mul ..
  simp only [chunk, start, stop, Array.toList_extract, List.extract_eq_take_drop, List.size_toArray,
    next]
  by_cases within : index * width ≤ chars.length
  · rw [Nat.min_eq_left within, List.take_eq_take_iff, List.length_drop]
    omega
  · have behind : chars.length ≤ index * width := by omega
    simp [List.drop_eq_nil_of_le behind, Nat.min_eq_right behind]

theorem chunks_eq (chars : List Char) (width : Nat) :
    chunks chars width = (List.range (chars.length / width + 1)).map fun index =>
      (chars.drop (index * width)).take width := by
  simp only [chunks, List.size_toArray]
  exact List.map_congr_left fun index _ => chunk_eq chars width index

/-- The windows from the start on are the beginning of the text. -/
theorem windows_flatten (chars : List Char) (width count : Nat) :
    ((List.range count).map fun index => (chars.drop (index * width)).take width).flatten =
      chars.take (count * width) := by
  induction count with
  | zero => simp
  | succ count ih =>
    have next : (count + 1) * width = count * width + width := Nat.succ_mul ..
    rw [List.range_succ, List.map_append, List.flatten_append, ih, next, List.take_add]
    simp

/-- Every chunk before the last lies in the text as a whole, and the last has the rest. -/
theorem chunks_cut (chars : List Char) {width : Nat} (positive : 0 < width) :
    Cut chars width (chunks chars width) := by
  have rest : chars.length % width < width := Nat.mod_lt _ positive
  have whole : chars.length / width * width + chars.length % width = chars.length :=
    Nat.div_add_mod' ..
  refine ⟨?_, ?_, ?_, ?_⟩
  · simp [chunks_eq]
  · intro chunk member
    rw [chunks_eq, List.range_succ, List.map_append, List.map_singleton,
      List.dropLast_concat] at member
    obtain ⟨index, below, rfl⟩ := List.mem_map.mp member
    have inside : (index + 1) * width ≤ chars.length / width * width :=
      Nat.mul_le_mul_right width (List.mem_range.mp below)
    have next : (index + 1) * width = index * width + width := Nat.succ_mul ..
    simp only [List.length_take, List.length_drop]
    omega
  · rw [chunks_eq, List.range_succ, List.map_append, List.map_singleton, List.getLast?_concat]
    simp only [Option.map_some, List.length_take, List.length_drop, Option.some.injEq]
    omega
  · have next : (chars.length / width + 1) * width = chars.length / width * width + width :=
      Nat.succ_mul ..
    rw [chunks_eq, windows_flatten]
    exact List.take_of_length_le (by omega)

/-- A report is its text in chunks, each behind the key of the data or of the missing data and
one space. -/
theorem chunked_without_loss (payload : Option String) (chunkLength : UInt64) :
    let text := payload.getD missing
    let width := if chunkLength = 0 then 1 else chunkLength.toNat
    let key := match payload with
      | some _ => dataKey
      | none => errorKey
    ∃ chunks, Cut text.toList width chunks ∧
      lines payload chunkLength = chunks.map fun chunk => key ++ " " ++ String.ofList chunk := by
  intro text width key
  refine ⟨chunks text.toList width, ?_, ?_⟩
  · have positive := width_pos chunkLength
    rw [width_eq] at positive
    exact chunks_cut text.toList positive
  · cases payload <;> simp only [lines, width_eq] <;> rfl

example : lines (some "abcdef") 3 = [dataKey ++ " abc", dataKey ++ " def", dataKey ++ " "] := by
  decide +kernel

end Rendezvous.Report.Coverage

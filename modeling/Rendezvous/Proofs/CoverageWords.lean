import Mathlib.Algebra.Group.Nat.Defs
import Rendezvous.Proofs.CoverageChunks

/-! Coverage chunks with positions in machine words. The ends of a chunk are products, taken before
they are clamped to the text, and the width may be any word. No product leaves the words: up to the
number of full chunks the index times the width is at most the length of the text, and one more
width either is at most that length again or stands alone. -/
namespace Rendezvous.Report.Coverage

/-! Operations on words. Each fails where a machine would wrap around or stop. -/

def sum? (a b : UInt64) : Option UInt64 :=
  if a.toNat + b.toNat < 2 ^ 64 then some (a + b) else none

def product? (a b : UInt64) : Option UInt64 :=
  if a.toNat * b.toNat < 2 ^ 64 then some (a * b) else none

def quotient? (a b : UInt64) : Option UInt64 :=
  if b = 0 then none else some (a / b)

/-- The characters between two positions, which have to be in order and within the text. -/
def slice? (chars : Array Char) (first behind : UInt64) : Option (List Char) :=
  if first ≤ behind ∧ behind.toNat ≤ chars.size then
    some (chars.extract first.toNat behind.toNat).toList
  else none

/-! Chunks by these operations -/

def wordChunk? (chars : Array Char) (width index : UInt64) : Option (List Char) := do
  let size := UInt64.ofNat chars.size
  let first ← product? index width
  let next ← sum? index 1
  let behind ← product? next width
  slice? chars (min first size) (min behind size)

def wordChunks? (chars : List Char) (width : UInt64) : Option (List (List Char)) := do
  let chars := chars.toArray
  let last ← quotient? (UInt64.ofNat chars.size) width
  (List.range (last.toNat + 1)).mapM fun index => wordChunk? chars width (UInt64.ofNat index)

def wordLines? (payload : Option String) (chunkLength : UInt64) : Option (List String) := do
  let chunks ← wordChunks? (text payload).toList (max chunkLength 1)
  return chunks.map fun chunk => key payload ++ " " ++ String.ofList chunk

theorem toNat_word {n : Nat} (word : n < 2 ^ 64) : (UInt64.ofNat n).toNat = n :=
  UInt64.toNat_ofNat_of_lt' word

theorem toNat_ofNat_le (n : Nat) : (UInt64.ofNat n).toNat ≤ n := by
  rw [UInt64.toNat_ofNat']
  exact Nat.mod_le ..

theorem sum?_one {a : Nat} (fits : a + 1 < 2 ^ 64) :
    sum? (.ofNat a) 1 = some (.ofNat (a + 1)) := by
  rw [UInt64.ofNat_add]
  exact if_pos (Nat.lt_of_le_of_lt (Nat.add_le_add_right (toNat_ofNat_le a) 1) fits)

theorem product?_ofNat {a b : Nat} (fits : a * b < 2 ^ 64) :
    product? (.ofNat a) (.ofNat b) = some (.ofNat (a * b)) := by
  rw [UInt64.ofNat_mul]
  exact if_pos (Nat.lt_of_le_of_lt (Nat.mul_le_mul (toNat_ofNat_le a) (toNat_ofNat_le b)) fits)

theorem quotient?_ofNat {a b : Nat} (first : a < 2 ^ 64) (second : b < 2 ^ 64) (positive : 0 < b) :
    quotient? (.ofNat a) (.ofNat b) = some (.ofNat (a / b)) := by
  rw [UInt64.ofNat_div first second]
  refine if_neg fun zero => ?_
  have number := toNat_word second
  rw [zero, UInt64.toNat_zero] at number
  omega

theorem min_ofNat {a b : Nat} (first : a < 2 ^ 64) (second : b < 2 ^ 64) :
    min (UInt64.ofNat a) (.ofNat b) = .ofNat (min a b) := by
  change (if UInt64.ofNat a ≤ .ofNat b then UInt64.ofNat a else .ofNat b) = _
  split
  · rename_i below
    rw [UInt64.le_iff_toNat_le, toNat_word first, toNat_word second] at below
    rw [Nat.min_eq_left below]
  · rename_i above
    rw [UInt64.le_iff_toNat_le, toNat_word first, toNat_word second] at above
    rw [Nat.min_eq_right (Nat.le_of_not_le above)]

theorem slice?_ofNat {chars : Array Char} {first behind : Nat} (held : chars.size < 2 ^ 64)
    (ordered : first ≤ behind) (within : behind ≤ chars.size) :
    slice? chars (.ofNat first) (.ofNat behind) = some (chars.extract first behind).toList := by
  have start : (UInt64.ofNat first).toNat = first := toNat_word (by omega)
  have stop : (UInt64.ofNat behind).toNat = behind := toNat_word (by omega)
  simp only [slice?, UInt64.le_iff_toNat_le, start, stop]
  exact if_pos ⟨ordered, within⟩

theorem max_one_eq (chunkLength : UInt64) : max chunkLength 1 = .ofNat (width chunkLength) := by
  change (if chunkLength ≤ 1 then 1 else chunkLength) = UInt64.ofNat (max chunkLength.toNat 1)
  split
  · rename_i below
    rw [UInt64.le_iff_toNat_le, UInt64.toNat_one] at below
    rw [Nat.max_eq_right below]
    rfl
  · rename_i above
    rw [UInt64.le_iff_toNat_le, UInt64.toNat_one] at above
    rw [Nat.max_eq_left (Nat.le_of_not_le above), UInt64.ofNat_toNat]

theorem width_lt (chunkLength : UInt64) : width chunkLength < 2 ^ 64 := by
  have word := chunkLength.toNat_lt
  simp only [width]
  omega

theorem mapM_eq_some {f : α → Option β} {g : α → β} {items : List α}
    (each : ∀ item ∈ items, f item = some (g item)) : items.mapM f = some (items.map g) := by
  induction items with
  | nil => rfl
  | cons item items ih =>
    have others := ih fun other member => each other (List.mem_cons_of_mem _ member)
    simp [List.mapM_cons, each item List.mem_cons_self, others]

section Positions

variable {size width index : Nat}

theorem start_le_stop (size width index : Nat) :
    start size width index ≤ stop size width index := by
  have next : index * width ≤ (index + 1) * width := Nat.mul_le_mul_right width (Nat.le_succ index)
  simp only [start, stop]
  omega

theorem stop_le (size width index : Nat) : stop size width index ≤ size := Nat.min_le_right ..

/-- The full chunks lie in the text. -/
theorem start_product_le (full : index ≤ size / width) : index * width ≤ size :=
  Nat.le_trans (Nat.mul_le_mul_right width full) (Nat.div_mul_le_self ..)

/-- One width more than what lies in the text. A width that is longer than the text stands alone. -/
theorem stop_product_lt (held : size < 2 ^ 61) (word : width < 2 ^ 64)
    (full : index ≤ size / width) : (index + 1) * width < 2 ^ 64 := by
  have within := start_product_le full
  rw [Nat.succ_mul]
  by_cases narrow : width ≤ size
  · omega
  · rw [Nat.div_eq_of_lt (Nat.lt_of_not_le narrow)] at full
    obtain rfl : index = 0 := Nat.le_zero.mp full
    omega

end Positions

section Words

variable {chars : List Char} {width : Nat} (held : chars.length < 2 ^ 61) (word : width < 2 ^ 64)
include held word

/-- What is computed in words is the chunk. -/
theorem wordChunk?_eq {index : Nat} (full : index ≤ chars.length / width) :
    wordChunk? chars.toArray (.ofNat width) (.ofNat index) =
      some (chunk chars.toArray width index) := by
  have within := start_product_le full
  have later := stop_product_lt held word full
  have few : index ≤ chars.length := Nat.le_trans full (Nat.div_le_self ..)
  have first : product? (.ofNat index) (.ofNat width) = some (.ofNat (index * width)) :=
    product?_ofNat (by omega)
  have next : sum? (.ofNat index) 1 = some (.ofNat (index + 1)) := sum?_one (by omega)
  have behind : product? (.ofNat (index + 1)) (.ofNat width) =
      some (.ofNat ((index + 1) * width)) := product?_ofNat later
  simp only [wordChunk?, first, next, behind, Option.bind_eq_bind, Option.bind_some,
    List.size_toArray]
  rw [min_ofNat (by omega) (by omega), min_ofNat later (by omega)]
  exact slice?_ofNat (by rw [List.size_toArray]; omega) (start_le_stop ..) (stop_le ..)

theorem wordChunks?_eq (positive : 0 < width) :
    wordChunks? chars (.ofNat width) = some (chunks chars width) := by
  have divided := quotient?_ofNat (by omega : chars.length < 2 ^ 64) word positive
  have few : chars.length / width ≤ chars.length := Nat.div_le_self ..
  simp only [wordChunks?, List.size_toArray, divided, Option.bind_eq_bind, Option.bind_some,
    toNat_word (by omega : chars.length / width < 2 ^ 64), chunks]
  refine mapM_eq_some fun index member => wordChunk?_eq held word ?_
  exact Nat.le_of_lt_succ (List.mem_range.mp member)

end Words

/-- In a text that a machine can hold, and for any chunk length, nothing goes wrong with words: the
division is not by zero, both products of every index are words, and the ends of the chunk are in
order and in the text. So the report in words is made, and is the report. -/
theorem positions_fit (payload : Option String) (chunkLength : UInt64)
    (held : (text payload).length < 2 ^ 61) :
    let size := (text payload).length
    let width := width chunkLength
    0 < width ∧
    (∀ index ≤ size / width,
      index * width < 2 ^ 64 ∧ (index + 1) * width < 2 ^ 64 ∧
      start size width index ≤ stop size width index ∧ stop size width index ≤ size) ∧
    wordLines? payload chunkLength = some (lines payload chunkLength) := by
  intro size width
  have positive : 0 < width := width_pos chunkLength
  have word : width < 2 ^ 64 := width_lt chunkLength
  refine ⟨positive, fun index full => ?_, ?_⟩
  · have within := start_product_le full
    exact ⟨by omega, stop_product_lt held word full, start_le_stop .., stop_le ..⟩
  · simp only [wordLines?, max_one_eq]
    rw [wordChunks?_eq held word positive]
    rfl

/-- The widest chunk there is. -/
theorem positions_fit_widest :
    (text (some "abc")).length < 2 ^ 61 ∧
      (0 + 1) * width 18446744073709551615 < 2 ^ 64 ∧
      wordLines? (some "abc") 18446744073709551615 =
        some (lines (some "abc") 18446744073709551615) := by
  have held : (text (some "abc")).length < 2 ^ 61 := by decide
  obtain ⟨-, ends, made⟩ := positions_fit (some "abc") 18446744073709551615 held
  exact ⟨held, (ends 0 (Nat.zero_le _)).2.1, made⟩

end Rendezvous.Report.Coverage

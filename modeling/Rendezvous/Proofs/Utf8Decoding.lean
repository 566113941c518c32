import Mathlib.Data.List.Basic
import Rendezvous.Text.Utf8

/-! Strict decoding accepts exactly what encoding produces. The first byte of a sequence tells how
many follow, and the bounds of the second byte keep out what has a shorter form, surrogates, and
what is beyond the last code point; so every character has one sequence, and every sequence that is
read is that of its character. -/
namespace Rendezvous.Text.Utf8

theorem toList_loop (bytes : ByteArray) (start : Nat) (done : List UInt8) :
    ByteArray.toList.loop bytes start done = done.reverse ++ bytes.data.toList.drop start := by
  induction start, done using ByteArray.toList.loop.induct bytes with
  | case1 start done within ih =>
    have inside : start < bytes.data.toList.length := by simpa using within
    rw [ByteArray.toList.loop, if_pos within, ih, List.drop_eq_getElem_cons inside]
    simp [ByteArray.get!, within]
  | case2 start done beyond =>
    have behind : bytes.data.toList.length ≤ start := by simpa using beyond
    rw [ByteArray.toList.loop, if_neg beyond, List.drop_eq_nil_of_le behind, List.append_nil]

/-- A text is encoded character by character. -/
theorem encode_eq (text : String) : encode text = text.toList.flatMap String.utf8EncodeChar := by
  have bytes : text.toByteArray = (text.toList.flatMap String.utf8EncodeChar).toByteArray := by
    rw [← List.utf8Encode, ← String.toByteArray_ofList, String.ofList_toList]
  rw [encode, String.toUTF8, bytes, ByteArray.toList, toList_loop, List.toList_data_toByteArray]
  rfl

/-! One character -/

/-- How many bytes follow depends on the range of the first byte; the bounds of the second one are
narrower behind four first bytes. -/
theorem lead?_eq (byte : Nat) :
    lead? byte =
      if byte < 0x80 then some ⟨byte, 0, 0x80, 0xBF⟩
      else if byte < 0xC2 then none
      else if byte < 0xE0 then some ⟨byte - 0xC0, 1, 0x80, 0xBF⟩
      else if byte < 0xF0 then
        some ⟨byte - 0xE0, 2,
          if byte = 0xE0 then 0xA0 else 0x80, if byte = 0xED then 0x9F else 0xBF⟩
      else if byte < 0xF5 then
        some ⟨byte - 0xF0, 3,
          if byte = 0xF0 then 0x90 else 0x80, if byte = 0xF4 then 0x8F else 0xBF⟩
      else none := by
  unfold lead?
  split_ifs <;> grind

/-- A byte that follows brings six more bits. -/
theorem follow_eq_some {bits low high following point : Nat} {rest left : Bytes} :
    follow bits low high (following + 1) rest = (some point, left) ↔
      ∃ byte more, rest = byte :: more ∧ (low ≤ byte.toNat ∧ byte.toNat ≤ high) ∧
        follow (64 * bits + (byte.toNat - 0x80)) 0x80 0xBF following more = (some point, left) := by
  cases rest with
  | nil => simp [follow]
  | cons byte more =>
    rw [follow]
    by_cases inside : low ≤ byte.toNat ∧ byte.toNat ≤ high <;> simp [inside]

theorem toNat_ofNat {point : Nat} (valid : point.isValidChar) :
    (Char.ofNat point).toNat = point := by
  rw [Char.ofNat, dif_pos valid]
  rfl

theorem toNat_lt (c : Char) : c.toNat < 0x110000 := by
  have valid : c.toNat.isValidChar := c.valid
  rcases valid with low | high <;> omega

/-- The bytes of a character, as numbers. -/
def units (point : Nat) : List Nat :=
  if point < 0x80 then [point]
  else if point < 0x800 then [point / 64 + 0xC0, point % 64 + 0x80]
  else if point < 0x10000 then
    [point / 4096 + 0xE0, point / 64 % 64 + 0x80, point % 64 + 0x80]
  else [point / 262144 + 0xF0, point / 4096 % 64 + 0x80, point / 64 % 64 + 0x80, point % 64 + 0x80]

theorem encodeChar_eq (c : Char) : String.utf8EncodeChar c = (units c.toNat).map UInt8.ofNat := by
  have last := toNat_lt c
  have point : c.val.toNat = c.toNat := rfl
  unfold String.utf8EncodeChar units
  rw [point]
  by_cases one : c.toNat < 0x80
  · simp [one, show c.toNat ≤ 127 by omega]
  by_cases two : c.toNat < 0x800
  · have lead : c.toNat / 64 % 32 = c.toNat / 64 := by omega
    simp [one, two, show ¬c.toNat ≤ 127 by omega, show c.toNat ≤ 2047 by omega, lead]
  by_cases three : c.toNat < 0x10000
  · have lead : c.toNat / 4096 % 16 = c.toNat / 4096 := by omega
    simp [one, two, three, show ¬c.toNat ≤ 127 by omega, show ¬c.toNat ≤ 2047 by omega,
      show c.toNat ≤ 65535 by omega, lead]
  · have lead : c.toNat / 262144 % 8 = c.toNat / 262144 := by omega
    simp [one, two, three, show ¬c.toNat ≤ 127 by omega, show ¬c.toNat ≤ 2047 by omega,
      show ¬c.toNat ≤ 65535 by omega, lead]

theorem encodeChar_ofNat {point : Nat} (bytes : Bytes) (valid : point.isValidChar)
    (same : units point = bytes.map UInt8.toNat) :
    String.utf8EncodeChar (Char.ofNat point) = bytes := by
  rw [encodeChar_eq, toNat_ofNat valid, same, List.map_map]
  exact List.map_id'' (fun _ => UInt8.ofNat_toNat) bytes

section Sequences

variable {byte second third fourth : UInt8} {point : Nat}

theorem encodeChar_one (lead : byte.toNat < 0x80) (shape : byte.toNat = point) :
    String.utf8EncodeChar (Char.ofNat point) = [byte] := by
  apply encodeChar_ofNat [byte] (by omega)
  rw [units, if_pos (by omega), ← shape]
  rfl

theorem encodeChar_two (lead : 0xC2 ≤ byte.toNat ∧ byte.toNat < 0xE0)
    (inside : 0x80 ≤ second.toNat ∧ second.toNat ≤ 0xBF)
    (shape : 64 * (byte.toNat - 0xC0) + (second.toNat - 0x80) = point) :
    String.utf8EncodeChar (Char.ofNat point) = [byte, second] := by
  apply encodeChar_ofNat [byte, second] (by omega)
  rw [units, if_neg (by omega), if_pos (by omega)]
  simp only [List.map_cons, List.map_nil, List.cons.injEq, and_true]
  omega

/-- The bounds of the second byte leave out two-byte sequences and surrogates. -/
theorem encodeChar_three (lead : 0xE0 ≤ byte.toNat ∧ byte.toNat < 0xF0)
    (inside : (if byte.toNat = 0xE0 then 0xA0 else 0x80) ≤ second.toNat ∧
      second.toNat ≤ if byte.toNat = 0xED then 0x9F else 0xBF)
    (within : 0x80 ≤ third.toNat ∧ third.toNat ≤ 0xBF)
    (shape : 64 * (64 * (byte.toNat - 0xE0) + (second.toNat - 0x80)) + (third.toNat - 0x80) =
      point) :
    String.utf8EncodeChar (Char.ofNat point) = [byte, second, third] := by
  have bounds : (0x80 ≤ second.toNat ∧ second.toNat ≤ 0xBF) ∧
      (byte.toNat = 0xE0 → 0xA0 ≤ second.toNat) ∧
      (byte.toNat = 0xED → second.toNat ≤ 0x9F) := by
    split_ifs at inside <;> omega
  apply encodeChar_ofNat [byte, second, third] (by omega)
  rw [units, if_neg (by omega), if_neg (by omega), if_pos (by omega)]
  simp only [List.map_cons, List.map_nil, List.cons.injEq, and_true]
  omega

/-- The bounds of the second byte leave out three-byte sequences and what is beyond the last code
point. -/
theorem encodeChar_four (lead : 0xF0 ≤ byte.toNat ∧ byte.toNat < 0xF5)
    (inside : (if byte.toNat = 0xF0 then 0x90 else 0x80) ≤ second.toNat ∧
      second.toNat ≤ if byte.toNat = 0xF4 then 0x8F else 0xBF)
    (within : 0x80 ≤ third.toNat ∧ third.toNat ≤ 0xBF)
    (also : 0x80 ≤ fourth.toNat ∧ fourth.toNat ≤ 0xBF)
    (shape : 64 * (64 * (64 * (byte.toNat - 0xF0) + (second.toNat - 0x80)) +
      (third.toNat - 0x80)) + (fourth.toNat - 0x80) = point) :
    String.utf8EncodeChar (Char.ofNat point) = [byte, second, third, fourth] := by
  have bounds : (0x80 ≤ second.toNat ∧ second.toNat ≤ 0xBF) ∧
      (byte.toNat = 0xF0 → 0x90 ≤ second.toNat) ∧
      (byte.toNat = 0xF4 → second.toNat ≤ 0x8F) := by
    split_ifs at inside <;> omega
  apply encodeChar_ofNat [byte, second, third, fourth] (by omega)
  rw [units, if_neg (by omega), if_neg (by omega), if_neg (by omega)]
  simp only [List.map_cons, List.map_nil, List.cons.injEq, and_true]
  omega

end Sequences

theorem follow_none {bits low high point : Nat} {rest left : Bytes} :
    follow bits low high 0 rest = (some point, left) ↔ bits = point ∧ rest = left := by
  simp [follow]

/-- What is read as a character is its encoding. -/
theorem encoded_of_step {byte : UInt8} {rest left : Bytes} {c : Char}
    (read : step byte rest = (some c, left)) : byte :: rest = String.utf8EncodeChar c ++ left := by
  unfold step at read
  cases found : lead? byte.toNat with
  | none => simp [found] at read
  | some lead =>
    simp only [found, Prod.mk.injEq, Option.map_eq_some_iff] at read
    obtain ⟨⟨point, first, rfl⟩, behind⟩ := read
    have followed : follow lead.bits lead.low lead.high lead.following rest = (some point, left) :=
      Prod.ext first behind
    rw [lead?_eq] at found
    split at found
    · obtain rfl := Option.some.inj found
      obtain ⟨shape, rfl⟩ := follow_none.mp followed
      rw [encodeChar_one (by omega) shape]
      rfl
    split at found
    · cases found
    split at found
    · obtain rfl := Option.some.inj found
      obtain ⟨second, more, rfl, inside, followed⟩ := follow_eq_some.mp followed
      obtain ⟨shape, rfl⟩ := follow_none.mp followed
      rw [encodeChar_two (by omega) inside shape]
      rfl
    split at found
    · obtain rfl := Option.some.inj found
      obtain ⟨second, more, rfl, inside, followed⟩ := follow_eq_some.mp followed
      obtain ⟨third, more, rfl, within, followed⟩ := follow_eq_some.mp followed
      obtain ⟨shape, rfl⟩ := follow_none.mp followed
      rw [encodeChar_three (by omega) inside within shape]
      rfl
    split at found
    · obtain rfl := Option.some.inj found
      obtain ⟨second, more, rfl, inside, followed⟩ := follow_eq_some.mp followed
      obtain ⟨third, more, rfl, within, followed⟩ := follow_eq_some.mp followed
      obtain ⟨fourth, more, rfl, also, followed⟩ := follow_eq_some.mp followed
      obtain ⟨shape, rfl⟩ := follow_none.mp followed
      rw [encodeChar_four (by omega) inside within also shape]
      rfl
    · cases found

theorem toNat_byte {n : Nat} (small : n < 256) : (UInt8.ofNat n).toNat = n :=
  UInt8.toNat_ofNat_of_lt' small

theorem follow_unit {bits low high following n : Nat} {rest : Bytes}
    (inside : low ≤ n % 64 + 0x80 ∧ n % 64 + 0x80 ≤ high) :
    follow bits low high (following + 1) (UInt8.ofNat (n % 64 + 0x80) :: rest) =
      follow (64 * bits + n % 64) 0x80 0xBF following rest := by
  rw [follow, toNat_byte (by omega), if_pos inside, Nat.add_sub_cancel]

theorem step_of_lead {byte : UInt8} {rest left : Bytes} {c : Char} (lead : Lead)
    (found : lead? byte.toNat = some lead)
    (followed : follow lead.bits lead.low lead.high lead.following rest = (some c.toNat, left)) :
    step byte rest = (some c, left) := by
  simp [step, found, followed]

/-- The encoding of a character is read as that character, whatever follows. -/
theorem step_encode (c : Char) (left : Bytes) :
    ∃ byte rest, String.utf8EncodeChar c ++ left = byte :: rest ∧
      step byte rest = (some c, left) := by
  have valid : c.toNat.isValidChar := c.valid
  rw [encodeChar_eq, units]
  by_cases one : c.toNat < 0x80
  · rw [if_pos one]
    refine ⟨_, _, rfl, step_of_lead ⟨c.toNat, 0, 0x80, 0xBF⟩ ?_ rfl⟩
    rw [lead?_eq, toNat_byte (by omega), if_pos one]
  by_cases two : c.toNat < 0x800
  · rw [if_neg one, if_pos two]
    refine ⟨_, _, rfl, step_of_lead ⟨c.toNat / 64, 1, 0x80, 0xBF⟩ ?_ ?_⟩
    · rw [lead?_eq, toNat_byte (by omega), if_neg (by omega), if_neg (by omega), if_pos (by omega),
        Nat.add_sub_cancel]
    · have point : 64 * (c.toNat / 64) + c.toNat % 64 = c.toNat := by omega
      exact (follow_unit (by dsimp only; omega)).trans (by rw [point]; rfl)
  by_cases three : c.toNat < 0x10000
  · rw [if_neg one, if_neg two, if_pos three]
    let first := c.toNat / 4096 + 0xE0
    let low := if first = 0xE0 then 0xA0 else 0x80
    let high := if first = 0xED then 0x9F else 0xBF
    refine ⟨_, _, rfl, step_of_lead ⟨c.toNat / 4096, 2, low, high⟩ ?_ ?_⟩
    · rw [lead?_eq, toNat_byte (by omega), if_neg (by omega), if_neg (by omega), if_neg (by omega),
        if_pos (by omega), Nat.add_sub_cancel]
    · have point : 64 * (64 * (c.toNat / 4096) + c.toNat / 64 % 64) + c.toNat % 64 = c.toNat := by
        omega
      exact (follow_unit (by dsimp only [low, high, first]; split_ifs <;> omega)).trans
        ((follow_unit (by omega)).trans (by rw [point]; rfl))
  · rw [if_neg one, if_neg two, if_neg three]
    let first := c.toNat / 262144 + 0xF0
    let low := if first = 0xF0 then 0x90 else 0x80
    let high := if first = 0xF4 then 0x8F else 0xBF
    refine ⟨_, _, rfl, step_of_lead ⟨c.toNat / 262144, 3, low, high⟩ ?_ ?_⟩
    · rw [lead?_eq, toNat_byte (by omega), if_neg (by omega), if_neg (by omega), if_neg (by omega),
        if_neg (by omega), if_pos (by omega), Nat.add_sub_cancel]
    · have point : 64 * (64 * (64 * (c.toNat / 262144) + c.toNat / 4096 % 64) +
          c.toNat / 64 % 64) + c.toNat % 64 = c.toNat := by omega
      exact (follow_unit (by dsimp only [low, high, first]; split_ifs <;> omega)).trans
        ((follow_unit (by omega)).trans ((follow_unit (by omega)).trans (by rw [point]; rfl)))

/-! A whole text -/

theorem characters_encode (chars : List Char) {fuel : Nat}
    (enough : (chars.flatMap String.utf8EncodeChar).length ≤ fuel) :
    characters fuel (chars.flatMap String.utf8EncodeChar) = chars.map some := by
  induction chars generalizing fuel with
  | nil => cases fuel <;> rfl
  | cons c chars ih =>
    obtain ⟨byte, rest, first, read⟩ := step_encode c (chars.flatMap String.utf8EncodeChar)
    have some_byte : 0 < (String.utf8EncodeChar c).length :=
      List.length_pos_of_ne_nil String.utf8EncodeChar_ne_nil
    rw [List.flatMap_cons, List.length_append] at enough
    cases fuel with
    | zero => omega
    | succ fuel =>
      have others := @ih fuel (by omega)
      rw [List.flatMap_cons, first, characters, read, List.map_cons, ← others]

theorem encoded_of_characters {fuel : Nat} {bytes : Bytes} {chars : List Char}
    (enough : bytes.length ≤ fuel) (read : characters fuel bytes = chars.map some) :
    bytes = chars.flatMap String.utf8EncodeChar := by
  induction fuel generalizing bytes chars with
  | zero =>
    obtain rfl : bytes = [] := List.eq_nil_of_length_eq_zero (by omega)
    cases chars with
    | nil => rfl
    | cons c chars => simp [characters] at read
  | succ fuel ih =>
    cases bytes with
    | nil =>
      cases chars with
      | nil => rfl
      | cons c chars => simp [characters] at read
    | cons byte rest =>
      cases chars with
      | nil => simp [characters] at read
      | cons c chars =>
        cases stepped : step byte rest with
        | mk found left =>
          simp only [characters, stepped, List.map_cons, List.cons.injEq] at read
          obtain ⟨rfl, others⟩ := read
          have encoded := encoded_of_step stepped
          have sizes := congrArg List.length encoded
          have some_byte : 0 < (String.utf8EncodeChar c).length :=
            List.length_pos_of_ne_nil String.utf8EncodeChar_ne_nil
          rw [List.length_append, List.length_cons] at sizes
          rw [List.length_cons] at enough
          rw [encoded, List.flatMap_cons, ← ih (by omega) others]

theorem mapM_id_eq_some {found : List (Option α)} {items : List α} :
    found.mapM id = some items ↔ found = items.map some := by
  induction found generalizing items with
  | nil => cases items <;> simp
  | cons first rest ih =>
    rw [List.mapM_cons]
    cases first with
    | none => cases items <;> simp
    | some value =>
      cases items <;> cases later : rest.mapM id <;> simp_all

/-- A text is read from its encoding and from nothing else. -/
theorem decode?_eq_some {bytes : Bytes} {text : String} :
    decode? bytes = some text ↔ bytes = encode text := by
  have chars : decode? bytes = some text ↔ decodeAll bytes = text.toList.map some := by
    simp only [decode?, Option.map_eq_some_iff, mapM_id_eq_some]
    constructor
    · rintro ⟨chars, read, rfl⟩
      simpa using read
    · exact fun read => ⟨_, read, String.ofList_toList⟩
  rw [chars, encode_eq]
  constructor
  · exact encoded_of_characters (Nat.le_refl _)
  · rintro rfl
    exact characters_encode _ (Nat.le_refl _)

theorem encode_inj {text other : String} : encode text = encode other ↔ text = other := by
  constructor
  · intro same
    exact Option.some.inj ((decode?_eq_some.mpr rfl).symm.trans (decode?_eq_some.mpr same))
  · exact congrArg encode

theorem mem_units {c : Char} {unit : Nat} (found : unit ∈ units c.toNat) :
    unit < 256 ∧ (unit = c.toNat ∨ 0x80 ≤ unit) := by
  have last := toNat_lt c
  unfold units at found
  split_ifs at found <;> simp only [List.mem_cons, List.not_mem_nil, or_false] at found <;> omega

/-- A byte below 0x80 stands for the character of its number and for no part of another. -/
theorem mem_encode_iff {text : String} {c : Char} (small : c.toNat < 0x80) :
    UInt8.ofNat c.toNat ∈ encode text ↔ c ∈ text.toList := by
  rw [encode_eq, List.mem_flatMap]
  constructor
  · rintro ⟨d, member, byte⟩
    rw [encodeChar_eq, List.mem_map] at byte
    obtain ⟨unit, found, same⟩ := byte
    obtain ⟨byte, own⟩ := mem_units found
    have number := congrArg UInt8.toNat same
    rw [toNat_byte byte, toNat_byte (by omega)] at number
    have equal : c = d := Char.toNat_inj.mp (by omega)
    rwa [equal]
  · intro member
    refine ⟨c, member, ?_⟩
    rw [encodeChar_eq, units, if_pos small]
    simp

end Rendezvous.Text.Utf8

import Rendezvous.Json.Value

/-! A compact JSON text is one line: every character below the blank is escaped inside quotes, and
nothing else in the text is such a character. -/
namespace Rendezvous.Json

/-- No character of the text is a control below the blank. -/
def Unbroken (text : List Char) : Prop := ∀ c ∈ text, 0x20 ≤ c.toNat

instance (text : List Char) : Decidable (Unbroken text) :=
  List.decidableBAll (fun c : Char => 0x20 ≤ c.toNat) text

@[simp] theorem unbroken_nil : Unbroken [] := by simp [Unbroken]

@[simp] theorem unbroken_cons {c : Char} {text : List Char} :
    Unbroken (c :: text) ↔ 0x20 ≤ c.toNat ∧ Unbroken text := by simp [Unbroken]

@[simp] theorem unbroken_append {front back : List Char} :
    Unbroken (front ++ back) ↔ Unbroken front ∧ Unbroken back := by
  simp [Unbroken, or_imp, forall_and]

@[simp] theorem unbroken_flatMap {f : Char → List Char} {text : List Char} :
    Unbroken (text.flatMap f) ↔ ∀ c ∈ text, Unbroken (f c) := by
  constructor
  · intro whole c member d part
    exact whole d (List.mem_flatMap.mpr ⟨c, member, part⟩)
  · intro each d member
    obtain ⟨c, inside, part⟩ := List.mem_flatMap.mp member
    exact each c inside d part

theorem Unbroken.of_subset {text part : List Char} (whole : Unbroken text)
    (inside : ∀ c ∈ part, c ∈ text) : Unbroken part :=
  fun c member => whole c (inside c member)

theorem Unbroken.newline {text : List Char} (whole : Unbroken text) : '\n' ∉ text := by
  intro member
  have bound := whole '\n' member
  simp at bound

theorem escape_unbroken (c : Char) : Unbroken (escape c) := by
  have hexadecimal : ∀ digit < 16, 0x20 ≤ (Nat.digitChar digit).toNat := by decide
  unfold escape
  -- Seven characters have an escape of their own.
  iterate 7 (split; · simp)
  split
  · rename_i control
    have high := hexadecimal (c.toNat / 16) (by omega)
    have low := hexadecimal (c.toNat % 16) (by omega)
    simp [high, low]
  · rename_i printable
    simpa using printable

theorem quoted_unbroken (text : String) : Unbroken (quoted text) := by
  simp [quoted, escape_unbroken]

namespace Number

theorem toDigits_unbroken (n : Nat) : Unbroken (Nat.toDigits 10 n) := by
  intro c member
  have digit : c.isDigit = true := Nat.isDigit_of_mem_toDigits (by decide) (by decide) member
  have first : 48 ≤ c.toNat := by
    simp only [Char.isDigit, Bool.and_eq_true, decide_eq_true_eq] at digit
    exact UInt32.le_iff_toNat_le.mp digit.1
  omega

theorem zeros_unbroken (count : Nat) : Unbroken (List.replicate count '0') := by
  intro c member
  simp [List.eq_of_mem_replicate member]

theorem plain_unbroken {digits : List Char} (each : Unbroken digits) (point : Int) :
    Unbroken (plain digits point) := by
  have front (count : Nat) : Unbroken (digits.take count) :=
    each.of_subset fun _ => List.mem_of_mem_take
  have back (count : Nat) : Unbroken (digits.drop count) :=
    each.of_subset fun _ => List.mem_of_mem_drop
  unfold plain
  split
  · simp [each, zeros_unbroken]
  · split
    · simp [front, back]
    · simp [each, zeros_unbroken]

theorem scientific_unbroken {digits : List Char} (each : Unbroken digits) (exponent : Int) :
    Unbroken (scientific digits exponent) := by
  have sign : Unbroken ['e', if exponent < 0 then '-' else '+'] := by split <;> simp
  unfold scientific
  split <;> simp_all [toDigits_unbroken]

theorem text_unbroken (number : Number) : Unbroken number.text := by
  cases number with
  | integer value =>
    simp only [text, integerText]
    split <;> simp [toDigits_unbroken]
  | double x =>
    have digits := toDigits_unbroken (Rendezvous.Number.Shortest.ofBinary64 x).digits
    simp only [text, doubleText, unbroken_append]
    refine ⟨by split <;> simp, ?_⟩
    split
    · simp
    · split
      · exact plain_unbroken digits _
      · exact scientific_unbroken digits _

end Number

namespace Value

mutual
theorem chars_unbroken : ∀ value : Value, Unbroken value.chars
  | .null => by simp [chars]
  | .boolean true => by simp [chars]
  | .boolean false => by simp [chars]
  | .number value => by simpa [chars] using Number.text_unbroken value
  | .string value => by simpa [chars] using quoted_unbroken value
  | .array [] => by simp [chars]
  | .array (item :: rest) => by
    simp [chars, chars_unbroken item, restChars_unbroken rest]
  | .object [] => by simp [chars]
  | .object ((key, value) :: rest) => by
    simp [chars, quoted_unbroken, chars_unbroken value, membersChars_unbroken rest]

theorem restChars_unbroken : ∀ items : List Value, Unbroken (restChars items)
  | [] => by simp [restChars]
  | item :: rest => by
    simp [restChars, chars_unbroken item, restChars_unbroken rest]

theorem membersChars_unbroken : ∀ members : List (String × Value), Unbroken (membersChars members)
  | [] => by simp [membersChars]
  | (key, value) :: rest => by
    simp [membersChars, quoted_unbroken, chars_unbroken value, membersChars_unbroken rest]
end

end Value

end Rendezvous.Json

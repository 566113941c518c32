import Mathlib.Data.List.TakeWhile
import Mathlib.Tactic.ByContra
import Rendezvous.Json.Record
import Rendezvous.Proofs.JsonSkipping

/-! The spellings of JSON text that the readers take: blanks between all parts, every escape of a
character, and any value at all where none was asked for. The written texts are spellings too. -/
namespace Rendezvous.Json

/-! Blanks -/

/-- Blanks, as they may stand between the parts of a text. -/
abbrev Gap := {gap : List Char // ∀ c ∈ gap, isBlank c = true}

/-- No blank at all. -/
def Gap.none : Gap := ⟨[], by simp⟩

@[simp] theorem Gap.val_none : Gap.none.val = [] := rfl

@[simp] theorem skipBlanks_gap (gap : Gap) (text : List Char) :
    skipBlanks (gap.val ++ text) = skipBlanks text :=
  List.dropWhile_append_of_pos gap.property

theorem skipBlanks_solid {c : Char} (solid : isBlank c = false) (rest : List Char) :
    skipBlanks (c :: rest) = c :: rest := by
  simp [skipBlanks, solid]

/-- A value starts with none of these. -/
def Starts (text : List Char) : Prop := ∃ c rest, text = c :: rest ∧ isBlank c = false ∧ c ≠ ']'

theorem skipBlanks_starts {text : List Char} (starts : Starts text) (rest : List Char) :
    skipBlanks (text ++ rest) = text ++ rest := by
  obtain ⟨c, more, rfl, solid, -⟩ := starts
  exact skipBlanks_solid solid _

/-- What ends a number: neither a digit nor what a fraction or an exponent starts with. -/
def Ends (rest : List Char) : Prop :=
  ∀ c ∈ rest.head?, isDigit c = false ∧ c ≠ '.' ∧ c ≠ 'e' ∧ c ≠ 'E'

theorem ends_cons {c : Char} {rest : List Char}
    (closing : isBlank c = true ∨ c = ',' ∨ c = ']' ∨ c = '\x7d') : Ends (c :: rest) := by
  intro d member
  obtain rfl : c = d := by simpa using member
  have blank : isBlank c = true → c = ' ' ∨ c = '\t' ∨ c = '\n' ∨ c = '\r' := by
    simp [isBlank, or_assoc]
  rcases closing with space | rfl | rfl | rfl
  · rcases blank space with rfl | rfl | rfl | rfl <;> decide
  all_goals decide

theorem ends_gap (gap : Gap) {rest : List Char} (ends : Ends rest) : Ends (gap.val ++ rest) := by
  obtain ⟨gap, blanks⟩ := gap
  cases gap with
  | nil => exact ends
  | cons c gap => exact ends_cons (.inl (blanks c List.mem_cons_self))

/-- A part with the blanks around it. -/
structure Padded where
  before : Gap
  part : List Char
  after : Gap

/-- A part with no blanks around it. -/
def Padded.close (part : List Char) : Padded := ⟨Gap.none, part, Gap.none⟩

def Padded.text (padded : Padded) : List Char :=
  padded.before.val ++ (padded.part ++ padded.after.val)

/-- A key and a value. -/
structure Member where
  key : Padded
  value : Padded

def Member.text (member : Member) : List Char := member.key.text ++ ':' :: member.value.text

def arrayText (first : Padded) (others : List Padded) : List Char :=
  '[' :: first.text ++ others.flatMap (fun item => ',' :: item.text) ++ [']']

def objectText (first : Member) (others : List Member) : List Char :=
  '\x7b' :: first.text ++ others.flatMap (fun member => ',' :: member.text) ++ ['\x7d']

/-! Strings -/

/-- Four hexadecimal digits and the unit they mean. -/
inductive Hexadecimal : List Char → Nat → Prop
  | digits {a b c d : Char} {first second third fourth : Nat} : hexValue? a = some first →
      hexValue? b = some second → hexValue? c = some third → hexValue? d = some fourth →
      Hexadecimal [a, b, c, d] (4096 * first + 256 * second + 16 * third + fourth)

/-- What may stand between quotes for some characters. -/
inductive Body : List Char → List Char → Prop
  | nil : Body [] []
  | plain {c : Char} {chars text : List Char} : c ≠ '"' → c ≠ '\\' → 0x20 ≤ c.toNat →
      Body chars text → Body (c :: chars) (c :: text)
  | short {letter c : Char} {chars text : List Char} : shortEscape? letter = some c →
      Body chars text → Body (c :: chars) ('\\' :: letter :: text)
  | unit {digits chars text : List Char} {unit : Nat} : Hexadecimal digits unit →
      (unit < 0xD800 ∨ 0xDFFF < unit) → Body chars text →
      Body (Char.ofNat unit :: chars) ('\\' :: 'u' :: digits ++ text)
  | pair {leading trailing chars text : List Char} {lead trail : Nat} : Hexadecimal leading lead →
      0xD800 ≤ lead ∧ lead ≤ 0xDBFF → Hexadecimal trailing trail →
      0xDC00 ≤ trail ∧ trail ≤ 0xDFFF → Body chars text →
      Body (Char.ofNat (0x10000 + 0x400 * (lead - 0xD800) + (trail - 0xDC00)) :: chars)
        ('\\' :: 'u' :: leading ++ '\\' :: 'u' :: trailing ++ text)

/-- The spellings of a text. -/
def Quoted (text : String) (spelling : List Char) : Prop :=
  ∃ body, Body text.toList body ∧ spelling = '"' :: body ++ ['"']

theorem readUnit_hexadecimal {digits : List Char} {unit : Nat} (spelled : Hexadecimal digits unit)
    (rest : List Char) : readUnit (digits ++ rest) = .ok (unit, rest) := by
  obtain @⟨a, b, c, d, first, second, third, fourth, one, two, three, four⟩ := spelled
  have bytes : ¬ a.utf8Size + b.utf8Size + c.utf8Size + d.utf8Size < 4 := by
    have := a.utf8Size_pos
    have := b.utf8Size_pos
    have := c.utf8Size_pos
    have := d.utf8Size_pos
    omega
  simp [readUnit, one, two, three, four, bytes]

theorem readEscape_short {letter c : Char} (meant : shortEscape? letter = some c)
    (rest : List Char) : readEscape (letter :: rest) = .ok (c, rest) := by
  simp [readEscape, meant]

theorem readEscape_unit {digits : List Char} {unit : Nat} (spelled : Hexadecimal digits unit)
    (rest : List Char) :
    readEscape ('u' :: digits ++ rest) = readCharacter unit rest := by
  have long : shortEscape? 'u' = none := by decide
  simp only [readEscape, List.cons_append, long, if_pos, readUnit_hexadecimal spelled]
  rfl

theorem readCharacter_whole {unit : Nat} (whole : unit < 0xD800 ∨ 0xDFFF < unit)
    (rest : List Char) : readCharacter unit rest = .ok (Char.ofNat unit, rest) := by
  unfold readCharacter
  rw [if_neg (by omega), if_pos (by omega)]

theorem readCharacter_pair {lead trail : Nat} {trailing : List Char}
    (high : 0xD800 ≤ lead ∧ lead ≤ 0xDBFF) (trails : Hexadecimal trailing trail)
    (low : 0xDC00 ≤ trail ∧ trail ≤ 0xDFFF) (rest : List Char) :
    readCharacter lead ('\\' :: 'u' :: trailing ++ rest) =
      .ok (Char.ofNat (0x10000 + 0x400 * (lead - 0xD800) + (trail - 0xDC00)), rest) := by
  unfold readCharacter
  rw [if_neg (by omega), if_neg (by omega)]
  simp only [List.cons_append, readUnit_hexadecimal trails, bind, Except.bind]
  exact if_pos low

/-- A character that is read from an escape comes before the rest of the string. -/
theorem readString_escape (escape : List Char) {chars rest left : List Char} {c : Char}
    {fuel : Nat}
    (one : readEscape (escape ++ rest) = .ok (c, rest))
    (others : readString fuel rest = .ok (chars, left)) :
    readString (fuel + 1) ('\\' :: (escape ++ rest)) = .ok (c :: chars, left) := by
  rw [readString, if_neg (by decide), if_pos rfl, one]
  simp only [bind, Except.bind, others]
  rfl

theorem readString_body {chars text : List Char} (body : Body chars text) (rest : List Char)
    {fuel : Nat} (enough : text.length < fuel) :
    readString fuel (text ++ '"' :: rest) = .ok (chars, rest) := by
  induction body generalizing fuel with
  | nil =>
    obtain ⟨fuel, rfl⟩ : ∃ more, fuel = more + 1 := ⟨fuel - 1, by omega⟩
    rfl
  | plain quote backslash printable body ih =>
    obtain ⟨fuel, rfl⟩ : ∃ more, fuel = more + 1 := ⟨fuel - 1, by omega⟩
    rw [List.length_cons] at enough
    rw [List.cons_append, readString, if_neg quote, if_neg backslash, if_neg (by omega),
      ih (by omega)]
    rfl
  | @short letter c chars text meant body ih =>
    obtain ⟨fuel, rfl⟩ : ∃ more, fuel = more + 1 := ⟨fuel - 1, by omega⟩
    simp only [List.length_cons] at enough
    exact readString_escape [letter] (readEscape_short meant _) (ih (by omega))
  | @unit digits chars text unit spelled whole body ih =>
    obtain ⟨fuel, rfl⟩ : ∃ more, fuel = more + 1 := ⟨fuel - 1, by omega⟩
    simp only [List.length_cons, List.length_append] at enough
    have one := readEscape_unit spelled (text ++ '"' :: rest)
    rw [readCharacter_whole whole] at one
    simpa using readString_escape _ one (ih (by omega))
  | @pair leading trailing chars text lead trail leads high trails low body ih =>
    obtain ⟨fuel, rfl⟩ : ∃ more, fuel = more + 1 := ⟨fuel - 1, by omega⟩
    simp only [List.length_cons, List.length_append] at enough
    have one := readEscape_unit leads ('\\' :: 'u' :: trailing ++ (text ++ '"' :: rest))
    rw [readCharacter_pair high trails low, ← List.append_assoc] at one
    simpa using readString_escape _ one (ih (by omega))

/-- Every spelling of a text is read as that text. -/
theorem string_body {text : String} {body : List Char} (spelled : Body text.toList body)
    (rest : List Char) : string (body ++ '"' :: rest) = .ok (text, rest) := by
  have enough : body.length < (body ++ '"' :: rest).length + 1 := by
    rw [List.length_append]
    omega
  rw [string, readString_body spelled rest enough]
  simp only [bind, Except.bind, String.ofList_toList]
  rfl

theorem readText_quoted {text : String} {spelling : List Char} (spelled : Quoted text spelling)
    (gap : Gap) (rest : List Char) :
    readText (gap.val ++ (spelling ++ rest)) = .ok (text, rest) := by
  obtain ⟨body, meant, rfl⟩ := spelled
  have whole : skipBlanks (gap.val ++ ('"' :: body ++ ['"'] ++ rest)) =
      '"' :: (body ++ '"' :: rest) := by
    rw [skipBlanks_gap]
    simp [skipBlanks_solid, isBlank]
  simp only [readText, whole]
  exact string_body meant rest

/-- The written form of a control character is a unit of four digits. -/
theorem hexadecimal_control {n : Nat} (control : n < 0x20) :
    Hexadecimal ['0', '0', Nat.digitChar (n / 16), Nat.digitChar (n % 16)] n := by
  have digits : ∀ digit < 16, hexValue? (Nat.digitChar digit) = some digit := by decide
  have zero : hexValue? '0' = some 0 := by decide
  have spelled := Hexadecimal.digits zero zero (digits (n / 16) (by omega))
    (digits (n % 16) (by omega))
  have meant : 4096 * 0 + 256 * 0 + 16 * (n / 16) + n % 16 = n := by omega
  rwa [meant] at spelled

theorem body_escape (c : Char) {chars text : List Char} (body : Body chars text) :
    Body (c :: chars) (escape c ++ text) := by
  have short (letter : Char) {meant : Char} (found : shortEscape? letter = some meant)
      (same : c = meant) : Body (c :: chars) ('\\' :: letter :: text) := same ▸ .short found body
  unfold escape
  split
  · next quote => exact short '"' (by decide) quote
  split
  · next backslash => exact short '\\' (by decide) backslash
  split
  · next backspace => exact short 'b' (by decide) backspace
  split
  · next tab => exact short 't' (by decide) tab
  split
  · next newline => exact short 'n' (by decide) newline
  split
  · next feed => exact short 'f' (by decide) feed
  split
  · next carriage => exact short 'r' (by decide) carriage
  split
  · next control =>
    have unit := Body.unit (hexadecimal_control control) (by omega) body
    rwa [Char.ofNat_toNat] at unit
  · next quote backslash _ _ _ _ _ printable =>
    exact .plain quote backslash (by omega) body

theorem body_written (chars : List Char) : Body chars (chars.flatMap escape) := by
  induction chars with
  | nil => exact .nil
  | cons c chars ih => exact body_escape c ih

/-- The written form of a text is one of its spellings. -/
theorem quoted_written (text : String) : Quoted text (quoted text) :=
  ⟨_, body_written text.toList, rfl⟩

/-- A string can be passed over as well. -/
theorem skipString_body {chars text : List Char} (body : Body chars text) (rest : List Char)
    {fuel : Nat} (enough : text.length < fuel) :
    skipString fuel (text ++ '"' :: rest) = .ok rest := by
  have escaped {escape left : List Char} {fuel : Nat} (one : skipEscape escape = .ok left)
      (others : skipString fuel left = .ok rest) :
      skipString (fuel + 1) ('\\' :: escape) = .ok rest := by
    rw [skipString, if_neg (by decide), if_pos rfl, one]
    exact others
  induction body generalizing fuel with
  | nil =>
    obtain ⟨fuel, rfl⟩ : ∃ more, fuel = more + 1 := ⟨fuel - 1, by omega⟩
    rfl
  | plain quote backslash printable body ih =>
    obtain ⟨fuel, rfl⟩ : ∃ more, fuel = more + 1 := ⟨fuel - 1, by omega⟩
    rw [List.length_cons] at enough
    rw [List.cons_append, skipString, if_neg quote, if_neg backslash, if_neg (by omega)]
    exact ih (by omega)
  | short meant body ih =>
    obtain ⟨fuel, rfl⟩ : ∃ more, fuel = more + 1 := ⟨fuel - 1, by omega⟩
    simp only [List.length_cons] at enough
    exact escaped (by simp [skipEscape, meant]) (ih (by omega))
  | @unit digits chars text unit spelled whole body ih =>
    obtain ⟨fuel, rfl⟩ : ∃ more, fuel = more + 1 := ⟨fuel - 1, by omega⟩
    simp only [List.length_cons, List.length_append] at enough
    have one := skipEscape_unit (readUnit_hexadecimal spelled (text ++ '"' :: rest))
    simpa using escaped one (ih (by omega))
  | @pair leading trailing chars text lead trail leads high trails low body ih =>
    obtain ⟨fuel, rfl⟩ : ∃ more, fuel = more + 2 := ⟨fuel - 2, by
      simp only [List.length_cons, List.length_append] at enough
      omega⟩
    simp only [List.length_cons, List.length_append] at enough
    have one := skipEscape_unit (readUnit_hexadecimal leads
      ('\\' :: 'u' :: (trailing ++ (text ++ '"' :: rest))))
    have two := skipEscape_unit (readUnit_hexadecimal trails (text ++ '"' :: rest))
    simpa using escaped one (escaped two (ih (by omega)))

/-! Numbers -/

/-- One digit or more. -/
def Digits (digits : List Char) : Prop := digits ≠ [] ∧ ∀ c ∈ digits, isDigit c = true

/-- Digits of which the first is a zero only if it is the only one. -/
def Whole (digits : List Char) : Prop := Digits digits ∧ (digits.head? = some '0' → digits = ['0'])

/-- Nothing, or a point and digits. -/
def Fraction (text : List Char) : Prop := text = [] ∨ ∃ digits, Digits digits ∧ text = '.' :: digits

/-- Nothing, or a letter, perhaps a sign, and digits. -/
def Exponent (text : List Char) : Prop :=
  text = [] ∨ ∃ mark sign digits, (mark = 'e' ∨ mark = 'E') ∧
    (sign = [] ∨ sign = ['+'] ∨ sign = ['-']) ∧ Digits digits ∧ text = mark :: sign ++ digits

/-- What may be written for a number. -/
def Numeric (text : List Char) : Prop :=
  ∃ sign whole fraction exponent, (sign = [] ∨ sign = ['-']) ∧ Whole whole ∧ Fraction fraction ∧
    Exponent exponent ∧ text = sign ++ whole ++ fraction ++ exponent

/-- What no digit starts. -/
def Undigited (rest : List Char) : Prop := ∀ c ∈ rest.head?, isDigit c = false

theorem Ends.undigited {rest : List Char} (ends : Ends rest) : Undigited rest :=
  fun c member => (ends c member).1

theorem takeWhile_digits {digits rest : List Char} (all : ∀ c ∈ digits, isDigit c = true)
    (bound : Undigited rest) :
    (digits ++ rest).takeWhile isDigit = digits ∧ (digits ++ rest).dropWhile isDigit = rest := by
  rw [List.takeWhile_append_of_pos all, List.dropWhile_append_of_pos all]
  cases rest with
  | nil => simp
  | cons c rest => simp [bound c rfl]

namespace Numeral

theorem digits_append {found rest : List Char} (spelled : Digits found) (bound : Undigited rest) :
    digits (found ++ rest) = .ok (found, rest) := by
  obtain ⟨some, all⟩ := spelled
  obtain ⟨taken, left⟩ := takeWhile_digits all bound
  unfold digits
  split
  · next none => exact absurd (taken.symm.trans none) some
  · rw [taken, left]

theorem readWhole_append {found rest : List Char} (spelled : Whole found)
    (bound : Undigited rest) : readWhole (found ++ rest) = .ok (found, rest) := by
  obtain ⟨spelled, single⟩ := spelled
  by_cases zero : found.head? = some '0'
  · obtain rfl := single zero
    cases rest with
    | nil => exact digits_append spelled bound
    | cons c rest => simp [readWhole, bound c rfl]
  · rw [← digits_append spelled bound]
    unfold readWhole
    split
    · next c more same =>
      obtain ⟨first, others, rfl⟩ := List.exists_cons_of_ne_nil spelled.1
      exact absurd (congrArg List.head? same) zero
    · rfl

/-- A number may be followed by its exponent. -/
theorem undigited_exponent {exponent rest : List Char} (spelled : Exponent exponent)
    (ends : Ends rest) : Undigited (exponent ++ rest) ∧ (exponent ++ rest).head? ≠ some '.' := by
  rcases spelled with rfl | ⟨mark, sign, digits, letter, -, -, rfl⟩
  · refine ⟨ends.undigited, fun point => ?_⟩
    exact (ends '.' point).2.1 rfl
  · rcases letter with rfl | rfl <;> simp [Undigited] <;> decide

theorem readExponent_append (numeral : Numeral) {exponent rest : List Char}
    (spelled : Exponent exponent) (ends : Ends rest) :
    ∃ read, readExponent numeral (exponent ++ rest) = .ok (read, rest) ∧
      (exponent = [] → read = numeral) := by
  rcases spelled with rfl | ⟨mark, sign, digits, letter, signed, spelled, rfl⟩
  · refine ⟨numeral, ?_, fun _ => rfl⟩
    cases rest with
    | nil => rfl
    | cons c rest =>
      have other : ¬ (c = 'e' ∨ c = 'E') := not_or.mpr (ends c rfl).2.2
      simp [readExponent, other]
  · have found := digits_append spelled ends.undigited
    obtain ⟨⟨first, others, rfl⟩, digit⟩ := And.imp_left List.exists_cons_of_ne_nil spelled
    have plain := digit first List.mem_cons_self
    rw [List.cons_append] at found
    refine ⟨{ numeral with exponent := some (sign == ['-'], first :: others) }, ?_, nofun⟩
    rcases signed with rfl | rfl | rfl
    · have minus : first ≠ '-' := by
        rintro rfl
        cases plain
      have plus : first ≠ '+' := by
        rintro rfl
        cases plain
      simp [readExponent, letter, found, minus, plus, bind, Except.bind, pure, Except.pure]
    · simp [readExponent, letter, found, bind, Except.bind, pure, Except.pure]
    · simp [readExponent, letter, found, bind, Except.bind, pure, Except.pure]

theorem readFraction_append (numeral : Numeral) {fraction exponent rest : List Char}
    (point : Fraction fraction) (power : Exponent exponent) (ends : Ends rest) :
    ∃ read, readFraction numeral (fraction ++ (exponent ++ rest)) = .ok (read, rest) ∧
      (fraction = [] → exponent = [] → read = numeral) := by
  obtain ⟨bound, pointless⟩ := undigited_exponent power ends
  rcases point with rfl | ⟨digits, spelled, rfl⟩
  · obtain ⟨read, behind, same⟩ := readExponent_append numeral power ends
    refine ⟨read, ?_, fun _ => same⟩
    rw [List.nil_append, ← behind]
    unfold readFraction
    split
    · next text start => exact absurd (congrArg List.head? start) pointless
    · rfl
  · obtain ⟨read, behind, -⟩ :=
      readExponent_append { numeral with fraction := some digits } power ends
    refine ⟨read, ?_, nofun⟩
    rw [List.cons_append, readFraction, digits_append spelled bound]
    exact behind

/-- The whole part stays as it is written, and without fraction and exponent it is all. -/
theorem read_append {sign whole fraction exponent rest : List Char}
    (signed : sign = [] ∨ sign = ['-']) (spelled : Whole whole) (point : Fraction fraction) (power : Exponent exponent)
    (ends : Ends rest) :
    ∃ read, Numeral.read (sign ++ whole ++ fraction ++ exponent ++ rest) = .ok (read, rest) ∧
      (fraction = [] → exponent = [] → read = ⟨sign == ['-'], whole, none, none⟩) := by
  obtain ⟨read, behind, same⟩ :=
    readFraction_append ⟨sign == ['-'], whole, none, none⟩ point power ends
  have bound : Undigited (fraction ++ (exponent ++ rest)) := by
    rcases point with rfl | ⟨digits, -, rfl⟩
    · exact (undigited_exponent power ends).1
    · simp [Undigited]
      decide
  have first := readWhole_append spelled bound
  refine ⟨read, ?_, same⟩
  simp only [List.append_assoc]
  rcases signed with rfl | rfl
  · rw [List.nil_append]
    unfold Numeral.read
    split
    · next text minus =>
      obtain ⟨⟨c, others, rfl⟩, digit⟩ := And.imp_left List.exists_cons_of_ne_nil spelled.1
      obtain ⟨rfl, -⟩ := List.cons.inj minus
      cases digit '-' List.mem_cons_self
    · rw [first]
      exact behind
  · rw [List.cons_append, List.nil_append, Numeral.read, first]
    exact behind

end Numeral

/-- A number starts with a minus or a digit. -/
theorem Numeric.head {text : List Char} (spelled : Numeric text) :
    ∃ c rest, text = c :: rest ∧ (c = '-' ∨ isDigit c = true) := by
  obtain ⟨sign, whole, fraction, exponent, signed, ⟨⟨some, all⟩, -⟩, -, -, rfl⟩ := spelled
  obtain ⟨c, others, rfl⟩ := List.exists_cons_of_ne_nil some
  rcases signed with rfl | rfl
  · exact ⟨c, _, rfl, .inr (all c List.mem_cons_self)⟩
  · exact ⟨'-', _, rfl, .inl rfl⟩

/-! Integers -/

theorem digits_toDigits (n : Nat) : Digits (Nat.toDigits 10 n) :=
  ⟨Nat.toDigits_ne_nil, fun c member => Nat.isDigit_of_mem_toDigits (by decide) (by decide) member⟩

theorem whole_toDigits (n : Nat) : Whole (Nat.toDigits 10 n) := by
  refine ⟨digits_toDigits n, ?_⟩
  induction n using Nat.strongRecOn with
  | ind n ih =>
    by_cases single : n < 10
    · rw [Nat.toDigits_of_lt_base single]
      simp
    · obtain ⟨c, rest, first⟩ := List.exists_cons_of_ne_nil (Nat.toDigits_ne_nil (n := n / 10))
      rw [Nat.toDigits_of_base_le (by decide) (by omega), first]
      intro zero
      have none := congrArg (Nat.ofDigitChars 10 · 0) (ih (n / 10) (by omega) (by rwa [first]))
      simp only [Nat.ofDigitChars_ten_toDigits] at none
      have positive : n / 10 ≠ 0 := by omega
      exact absurd none positive

/-- A number never shrinks when digits are appended to it. -/
theorem le_ofDigitChars (digits : List Char) (number : Nat) :
    number ≤ Nat.ofDigitChars 10 digits number := by
  induction digits generalizing number with
  | nil => exact Nat.le_refl _
  | cons c digits ih =>
    have step := ih (10 * number + (c.toNat - '0'.toNat))
    have own : Nat.ofDigitChars 10 (c :: digits) number =
      Nat.ofDigitChars 10 digits (10 * number + (c.toNat - '0'.toNat)) := rfl
    omega

/-- All digits of a number that fits a word are kept. -/
theorem absorb_eq (digits : List Char) (number : Nat)
    (fits : Nat.ofDigitChars 10 digits number ≤ Numeral.wordLast) :
    Numeral.absorb number digits = (Nat.ofDigitChars 10 digits number, digits.length) := by
  induction digits generalizing number with
  | nil => rfl
  | cons c digits ih =>
    have own : Nat.ofDigitChars 10 (c :: digits) number =
      Nat.ofDigitChars 10 digits (10 * number + digitValue c) := rfl
    rw [own] at fits ⊢
    have kept := le_ofDigitChars digits (10 * number + digitValue c)
    rw [Numeral.absorb, if_neg (by omega), ih _ fits]
    rfl

theorem value_integer {value : Int} (low : -(Nat.pow 2 63 : Nat) ≤ value)
    (high : value ≤ Numeral.wordLast) :
    Numeral.value ⟨decide (value < 0), Nat.toDigits 10 value.natAbs, none, none⟩ =
      .ok (.integer value) := by
  have bounds : Numeral.wordLast = 2 * Nat.pow 2 63 - 1 := rfl
  have kept := absorb_eq (Nat.toDigits 10 value.natAbs) 0 (by
    rw [Nat.ofDigitChars_ten_toDigits]
    omega)
  rw [Nat.ofDigitChars_ten_toDigits] at kept
  unfold Numeral.value
  simp only [kept, Nat.sub_self, and_true, if_true]
  by_cases negative : value < 0
  · have small : ¬ (value.natAbs = 0 ∨ Nat.pow 2 63 < value.natAbs) := by omega
    have same : -(value.natAbs : Int) = value := by omega
    rw [if_neg (by simp [negative]), if_neg small, same]
  · have same : (value.natAbs : Int) = value := by omega
    simp [negative, same]

theorem numeric_integerText (value : Int) : Numeric (Number.integerText value) := by
  refine ⟨if value < 0 then ['-'] else [], Nat.toDigits 10 value.natAbs, [], [], ?_,
    whole_toDigits _, .inl rfl, .inl rfl, ?_⟩
  · split <;> simp
  · simp [Number.integerText]

theorem read_integerText {value : Int} (low : -(Nat.pow 2 63 : Nat) ≤ value)
    (high : value ≤ Numeral.wordLast) {rest : List Char} (ends : Ends rest) :
    Number.read (Number.integerText value ++ rest) = .ok (.integer value, rest) := by
  have signed : (if value < 0 then ['-'] else []) = [] ∨
      (if value < 0 then ['-'] else []) = ['-'] := by
    split <;> simp
  obtain ⟨read, found, same⟩ :=
    Numeral.read_append signed (whole_toDigits value.natAbs) (.inl rfl) (.inl rfl) ends
  obtain rfl := same rfl rfl
  have minus : ((if value < 0 then ['-'] else []) == ['-']) = decide (value < 0) := by
    by_cases negative : value < 0 <;> simp [negative]
  rw [minus, List.append_nil, List.append_nil] at found
  rw [Number.read, Number.integerText, found]
  simp only [bind, Except.bind, value_integer low high]
  rfl

theorem isBlank_numeric {c : Char} (first : c = '-' ∨ isDigit c = true) : isBlank c = false := by
  by_contra blank
  simp only [isBlank, Bool.not_eq_false, Bool.or_eq_true, decide_eq_true_eq] at blank
  rcases first with rfl | digit
  · simp at blank
  · rcases blank with ((rfl | rfl) | rfl) | rfl <;> cases digit

/-- The written form of an integer in the range of a reader is read as that integer. -/
theorem readInteger_written {low high value : Int} (inside : low ≤ value ∧ value ≤ high)
    (least : -(Nat.pow 2 63 : Nat) ≤ low) (most : high ≤ Numeral.wordLast) (gap : Gap)
    {rest : List Char} (ends : Ends rest) :
    readInteger low high (gap.val ++ (Number.integerText value ++ rest)) = .ok (value, rest) := by
  have read : Number.read (Number.integerText value ++ rest) = .ok (.integer value, rest) :=
    read_integerText (by omega) (by omega) ends
  obtain ⟨c, more, text, first⟩ := (numeric_integerText value).head
  rw [text, List.cons_append] at read ⊢
  have blanks : skipBlanks (gap.val ++ c :: (more ++ rest)) = c :: (more ++ rest) := by
    rw [skipBlanks_gap, skipBlanks_solid (isBlank_numeric first)]
  simp only [readInteger, blanks, first, if_true, read, bind, Except.bind, inside]
  rfl

end Rendezvous.Json

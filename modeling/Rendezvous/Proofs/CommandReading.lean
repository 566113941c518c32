import Mathlib.Data.List.TakeWhile
import Rendezvous.Proofs.CommandWords
import Rendezvous.Proofs.Utf8Decoding
import Rendezvous.Shell.Reader
import Rendezvous.Shell.State

/-! The shell reads a start command as one simple command of the words between its blanks, as long
as there is nothing in the name that has a meaning of its own. -/
namespace Rendezvous.Splitting

open Shell (Lists Octets Piece endsWord pieces)

/-- A character that is part of a word or a blank between two words of one line. -/
structure Calm (c : Char) : Prop where
  unquoted : isQuote c = false
  unexpanded : c ≠ '$' ∧ c ≠ '\x60'
  uncommented : c ≠ '#'
  blank : endsWord c = true → Shell.isBlank c = true

/-- What a word of such characters ends before. -/
def Stops (rest : List Char) : Prop := ∀ c ∈ rest.head?, Shell.isBlank c = true

variable (lists : Lists)

theorem endsWord_of_isBlank {c : Char} (blank : Shell.isBlank c = true) : endsWord c = true := by
  simp [endsWord, blank]

/-! Words -/

/-- A character ends a word or is added to it. -/
theorem pieces_calm {c : Char} (calm : Calm c) (rest : List Char) (done : List Piece)
    (fuel : Nat) :
    pieces lists (fuel + 1) .bare done (c :: rest) =
      if endsWord c then .ok (done.reverse, c :: rest)
      else pieces lists fuel .bare (Shell.addChar c false done) rest := by
  obtain ⟨dollar, backquote⟩ := calm.unexpanded
  have unquoted := calm.unquoted
  simp only [isQuote, Bool.or_eq_false_iff, decide_eq_false_iff_not] at unquoted
  obtain ⟨⟨single, double⟩, backslash⟩ := unquoted
  conv => lhs; unfold pieces
  dsimp only
  split
  · next empty => cases empty
  · next joined => exact absurd (List.cons.inj joined).1 backslash
  · next escaped => exact absurd (List.cons.inj escaped).1 backslash
  · next same =>
    obtain ⟨rfl, rfl⟩ := List.cons.inj same
    split <;> first | contradiction | rfl

theorem pieces_rest {rest : List Char} (calm : ∀ c ∈ rest, Calm c) (stops : Stops rest)
    (done : List Piece) (fuel : Nat) :
    pieces lists (fuel + 1) .bare done rest = .ok (done.reverse, rest) := by
  cases rest with
  | nil => rfl
  | cons c rest =>
    rw [pieces_calm lists (calm c List.mem_cons_self), if_pos (endsWord_of_isBlank (stops c rfl))]

theorem pieces_word {word rest : List Char} (calm : ∀ c ∈ word ++ rest, Calm c)
    (inside : ∀ c ∈ word, endsWord c = false) (stops : Stops rest) (done : List Char) {fuel : Nat}
    (enough : word.length < fuel) :
    pieces lists fuel .bare [.text done false] (word ++ rest) =
      .ok ([.text (done ++ word) false], rest) := by
  induction word generalizing done fuel with
  | nil =>
    obtain ⟨fuel, rfl⟩ : ∃ more, fuel = more + 1 := ⟨fuel - 1, by omega⟩
    rw [List.nil_append, List.append_nil]
    exact pieces_rest lists calm stops _ fuel
  | cons c word ih =>
    obtain ⟨fuel, rfl⟩ : ∃ more, fuel = more + 1 := ⟨fuel - 1, by omega⟩
    rw [List.length_cons] at enough
    have own := inside c List.mem_cons_self
    have longer := ih (fun d member => calm d (List.mem_cons_of_mem _ member))
      (fun d member => inside d (List.mem_cons_of_mem _ member)) (done ++ [c])
      (show word.length < fuel by omega)
    rw [List.cons_append, pieces_calm lists (calm c List.mem_cons_self), own]
    simpa [Shell.addChar] using longer

theorem word_calm {c : Char} {word rest : List Char} (calm : ∀ d ∈ c :: (word ++ rest), Calm d)
    (inside : ∀ d ∈ c :: word, endsWord d = false) (stops : Stops rest) :
    Shell.word lists (c :: (word ++ rest)) = .ok ([.text (c :: word) false], rest) := by
  have longer := pieces_word lists (fun d member => calm d (List.mem_cons_of_mem _ member))
    (fun d member => inside d (List.mem_cons_of_mem _ member)) stops [c]
    (show word.length < (c :: (word ++ rest)).length by
      simp only [List.length_cons, List.length_append]
      omega)
  rw [Shell.word, pieces_calm lists (calm c List.mem_cons_self), inside c List.mem_cons_self]
  simpa [Shell.addChar] using longer

theorem skipBlanks_calm {c : Char} (calm : Calm c) (rest : List Char) :
    Shell.skipBlanks (c :: rest) =
      if Shell.isBlank c then Shell.skipBlanks rest else c :: rest := by
  have unquoted := calm.unquoted
  simp only [isQuote, Bool.or_eq_false_iff, decide_eq_false_iff_not] at unquoted
  conv => lhs; unfold Shell.skipBlanks
  split
  · next joined => exact absurd (List.cons.inj joined).1 unquoted.2
  · next same =>
    obtain ⟨rfl, rfl⟩ := List.cons.inj same
    rw [if_neg calm.uncommented]
  · next empty => cases empty

/-- No sign begins with such a character. -/
theorem sign?_calm {c : Char} (calm : Calm c) (rest : List Char) :
    Shell.sign? Shell.signs (c :: rest) = none ∧
      Shell.sign? Shell.redirectionSigns (c :: rest) = none := by
  have unsigned (list : List String) (each : ∀ sign ∈ list, ∃ first more,
      sign.toList = first :: more ∧ endsWord first = true ∧ Shell.isBlank first = false) :
      Shell.sign? list (c :: rest) = none := by
    rw [Shell.sign?, List.findSome?_eq_none_iff]
    intro sign member
    obtain ⟨first, more, spelled, ends, solid⟩ := each sign member
    have other : first ≠ c := by
      rintro rfl
      rw [calm.blank ends] at solid
      cases solid
    simp [spelled, other]
  constructor
  · apply unsigned
    simp only [Shell.signs, List.mem_cons, List.not_mem_nil, or_false]
    rintro sign (rfl | rfl | rfl | rfl | rfl | rfl | rfl | rfl) <;>
      exact ⟨_, _, rfl, by decide, by decide⟩
  · apply unsigned
    simp only [Shell.redirectionSigns, List.mem_cons, List.not_mem_nil, or_false]
    rintro sign (rfl | rfl | rfl | rfl | rfl | rfl | rfl | rfl | rfl) <;>
      exact ⟨_, _, rfl, by decide, by decide⟩

/-! Tokens -/

theorem token_ended {text : List Char} (calm : ∀ c ∈ text, Calm c)
    (blank : ∀ c ∈ text, Shell.isBlank c = true) : Shell.token lists text = .ok (.ended, []) := by
  have skipped : Shell.skipBlanks text = [] := by
    induction text with
    | nil => rfl
    | cons c text ih =>
      rw [skipBlanks_calm (calm c List.mem_cons_self), if_pos (blank c List.mem_cons_self)]
      exact ih (fun d member => calm d (List.mem_cons_of_mem _ member))
        (fun d member => blank d (List.mem_cons_of_mem _ member))
  rw [Shell.token, skipped]

/-- A word is read behind any blanks. -/
theorem token_word {gap word rest : List Char} (calm : ∀ c ∈ gap ++ (word ++ rest), Calm c)
    (blank : ∀ c ∈ gap, Shell.isBlank c = true) (some_word : word ≠ [])
    (inside : ∀ c ∈ word, endsWord c = false) (stops : Stops rest) :
    Shell.token lists (gap ++ (word ++ rest)) = .ok (.word [.text word false], rest) := by
  obtain ⟨c, word, rfl⟩ := List.exists_cons_of_ne_nil some_word
  have own := inside c List.mem_cons_self
  have solid : Shell.isBlank c = false := by
    by_contra blank
    rw [Bool.not_eq_false] at blank
    rw [endsWord_of_isBlank blank] at own
    cases own
  have skipped : Shell.skipBlanks (gap ++ (c :: word ++ rest)) = c :: (word ++ rest) := by
    induction gap with
    | nil =>
      rw [List.nil_append, List.cons_append, skipBlanks_calm (calm c (by simp)), solid]
      rfl
    | cons d gap ih =>
      rw [List.cons_append, skipBlanks_calm (calm d (by simp)),
        if_pos (blank d List.mem_cons_self)]
      exact ih (fun e member => blank e (List.mem_cons_of_mem _ member))
        (fun e member => calm e (List.mem_cons_of_mem _ member))
  have calm : ∀ d ∈ c :: (word ++ rest), Calm d := fun d member =>
    calm d (List.mem_append_right _ (by simpa using member))
  obtain ⟨sign, redirection⟩ := sign?_calm (calm c List.mem_cons_self) (word ++ rest)
  have numbered : Shell.sign? Shell.redirectionSigns (word ++ rest) = none := by
    cases behind : word ++ rest with
    | nil => rfl
    | cons d more => exact (sign?_calm (calm d (by simp [behind])) more).2
  have line : c ≠ '\n' := by
    rintro rfl
    cases own
  unfold Shell.token
  rw [skipped]
  dsimp only
  split
  · next empty => cases empty
  · next newline => exact absurd (List.cons.inj newline).1 line
  · next same =>
    obtain ⟨rfl, rfl⟩ := List.cons.inj same
    rw [sign, redirection, numbered, ite_self, word_calm lists calm inside stops]
    rfl

/-! The same words -/

theorem isBlank_of_blank {c : Char} (blank : Shell.isBlank c = true) : isBlank c = true := by
  simp only [Shell.isBlank, Bool.or_eq_true, decide_eq_true_eq] at blank
  rcases blank with rfl | rfl <;> rfl

theorem plain_of_calm {c : Char} (calm : Calm c) (inside : endsWord c = false) : Plain c := by
  refine ⟨?_, calm.unquoted⟩
  by_contra blank
  simp only [isBlank, Bool.not_eq_false, Bool.or_eq_true, decide_eq_true_eq] at blank
  rcases blank with (rfl | rfl) | rfl <;> cases inside

/-- Before a blank or the end, a word is over. -/
theorem cut_stops {rest : List Char} (calm : ∀ c ∈ rest, Calm c) (stops : Stops rest) :
    cut .bare rest = (words rest).map ([], ·) := by
  cases rest with
  | nil => rfl
  | cons c rest =>
    have blank := isBlank_of_blank (stops c rfl)
    have stays := next_plain (calm c List.mem_cons_self).unquoted
    rw [words, cut, stays]
    simp [Place.brings, blank, Function.comp_def]

theorem words_gap {gap : List Char} (calm : ∀ c ∈ gap, Calm c)
    (blank : ∀ c ∈ gap, Shell.isBlank c = true) (rest : List Char) :
    words (gap ++ rest) = words rest := by
  induction gap with
  | nil => rfl
  | cons c gap ih =>
    have own := isBlank_of_blank (blank c List.mem_cons_self)
    have stays := next_plain (calm c List.mem_cons_self).unquoted
    rw [← ih (fun d member => calm d (List.mem_cons_of_mem _ member))
      (fun d member => blank d (List.mem_cons_of_mem _ member))]
    rw [words, List.cons_append, cut, stays]
    simp [words, Place.brings, own, Function.comp_def]

theorem words_calm {gap word rest : List Char} (calm : ∀ c ∈ gap ++ (word ++ rest), Calm c)
    (blank : ∀ c ∈ gap, Shell.isBlank c = true) (some_word : word ≠ [])
    (inside : ∀ c ∈ word, endsWord c = false) (stops : Stops rest) :
    words (gap ++ (word ++ rest)) = (words rest).map (word :: ·) := by
  have plain : ∀ c ∈ word, Plain c := fun c member =>
    plain_of_calm (calm c (by simp [member])) (inside c member)
  have behind : ∀ c ∈ rest, Calm c := fun c member => calm c (by simp [member])
  rw [words_gap (fun c member => calm c (by simp [member])) blank]
  rw [words, cut_plain plain, cut_stops behind stops]
  simp [Function.comp_def, some_word]

/-- Such a text is blank, or blanks stand before a word. -/
theorem blank_or_word {text : List Char} (calm : ∀ c ∈ text, Calm c) :
    (∀ c ∈ text, Shell.isBlank c = true) ∨
      ∃ gap word rest, text = gap ++ (word ++ rest) ∧ (∀ c ∈ gap, Shell.isBlank c = true) ∧
        word ≠ [] ∧ (∀ c ∈ word, endsWord c = false) ∧ Stops rest := by
  induction text with
  | nil => exact .inl (by simp)
  | cons c text ih =>
    cases ends : endsWord c with
    | true =>
      have own := (calm c List.mem_cons_self).blank ends
      rcases ih fun d member => calm d (List.mem_cons_of_mem _ member) with blank | found
      · exact .inl (by simpa [own] using blank)
      · obtain ⟨gap, word, rest, rfl, blank, others⟩ := found
        exact .inr ⟨c :: gap, word, rest, rfl, by simpa [own] using blank, others⟩
    | false =>
      refine .inr ⟨[], (c :: text).takeWhile (!endsWord ·), (c :: text).dropWhile (!endsWord ·),
        (List.takeWhile_append_dropWhile).symm, by simp, by simp [ends], ?_, ?_⟩
      · intro d member
        simpa using List.mem_takeWhile_imp member
      · intro d first
        have stopped := List.head?_dropWhile_not (!endsWord ·) (c :: text)
        rw [first] at stopped
        refine (calm d ?_).blank (by simpa using stopped)
        exact List.dropWhile_subset _ (List.mem_of_head? first)

/-! The whole command -/

/-- A word of ordinary characters as the shell keeps it. -/
def asPlain (word : List Char) : Shell.Word := [.text word false]

/-- Behind its first word, a simple command has the words of the text. -/
theorem simple_calm {text : List Char} (calm : ∀ c ∈ text, Calm c) {found : List (List Char)}
    (cutting : words text = some found) (line : Nat) {done : List Shell.Word}
    (some_done : done ≠ []) {fuel : Nat} (enough : text.length < fuel) :
    ∃ rest, Shell.Reader.simple lists line fuel ⟨[], done, []⟩ text =
        .ok (.simple line [] (done.reverse ++ found.map asPlain) [], rest) ∧
      Shell.token lists rest = .ok (.ended, []) := by
  induction fuel generalizing text found done with
  | zero => omega
  | succ fuel ih =>
    rcases blank_or_word calm with blank | ⟨gap, word, rest, rfl, blank, some_word, inside, stops⟩
    · have ended := token_ended lists calm blank
      have none := words_gap calm blank []
      rw [List.append_nil, cutting] at none
      obtain rfl : found = [] := Option.some.inj none
      refine ⟨text, ?_, ended⟩
      simp [Shell.Reader.simple, ended, bind, Except.bind, pure, Except.pure]
    · have read := token_word lists calm blank some_word inside stops
      rw [words_calm calm blank some_word inside stops] at cutting
      obtain ⟨others, later, rfl⟩ := Option.map_eq_some_iff.mp cutting
      have behind : ∀ c ∈ rest, Calm c := fun c member => calm c (by simp [member])
      have shorter : rest.length < fuel := by
        have some_length := List.length_pos_of_ne_nil some_word
        simp only [List.length_append] at enough
        omega
      obtain ⟨left, more, ended⟩ := ih behind later (List.cons_ne_nil (asPlain word) done) shorter
      refine ⟨left, ?_, ended⟩
      simpa [Shell.Reader.simple, read, bind, Except.bind, some_done, asPlain] using more

/-- A command starts with a word if that is no keyword, and assigns nothing. -/
structure Starts (word : List Char) : Prop where
  some_word : word ≠ []
  unreserved : String.ofList word ∉ Shell.keywords
  unassigning : '=' ∉ word

theorem keyword?_starts {word : List Char} (starts : Starts word) :
    (Shell.Token.word [.text word false]).keyword? = none := by
  simp [Shell.Token.keyword?, Shell.Token.plain?, starts.unreserved]

theorem assignment?_starts {word : List Char} (starts : Starts word) :
    Shell.Reader.assignment? [.text word false] = none := by
  have none : word.dropWhile (· ≠ '=') = [] := by
    rw [List.dropWhile_eq_nil_iff]
    intro c member
    refine decide_eq_true fun equals => starts.unassigning ?_
    rwa [← equals]
  simp only [Shell.Reader.assignment?, none]

variable {word rest : List Char}

theorem first_token (calm : ∀ c ∈ word ++ rest, Calm c) (starts : Starts word)
    (inside : ∀ c ∈ word, endsWord c = false) (stops : Stops rest) :
    Shell.token lists (word ++ rest) = .ok (.word [.text word false], rest) := by
  have blank : ∀ c ∈ ([] : List Char), Shell.isBlank c = true := by simp
  exact token_word lists calm blank starts.some_word inside stops

theorem command_calm (calm : ∀ c ∈ word ++ rest, Calm c) (starts : Starts word)
    (inside : ∀ c ∈ word, endsWord c = false) (stops : Stops rest) {found : List (List Char)}
    (cutting : words (word ++ rest) = some found) (line : Nat) {fuel : Nat}
    (enough : (word ++ rest).length + 2 < fuel) :
    ∃ left, Shell.Reader.command lists line fuel (word ++ rest) =
        .ok (.simple line [] (found.map asPlain) [], left) ∧
      Shell.token lists left = .ok (.ended, []) := by
  obtain ⟨fuel, rfl⟩ : ∃ more, fuel = more + 2 := ⟨fuel - 2, by omega⟩
  have blank : ∀ c ∈ ([] : List Char), Shell.isBlank c = true := by simp
  have read (lists : Lists) := first_token lists calm starts inside stops
  rw [← List.nil_append (word ++ rest),
    words_calm calm blank starts.some_word inside stops] at cutting
  obtain ⟨others, later, rfl⟩ := Option.map_eq_some_iff.mp cutting
  have behind : ∀ c ∈ rest, Calm c := fun c member => calm c (by simp [member])
  have shorter : rest.length < fuel := by
    simp only [List.length_append] at enough
    omega
  obtain ⟨left, more, ended⟩ :=
    simple_calm lists behind later line (List.cons_ne_nil (asPlain word) []) shorter
  refine ⟨left, ?_, ended⟩
  unfold Shell.Reader.command
  simp only [read, bind, Except.bind, keyword?_starts starts]
  unfold Shell.Reader.simple
  simp only [read, bind, Except.bind, List.isEmpty_nil, if_true, assignment?_starts starts]
  exact more

theorem linesLeft_calm {text : List Char} (calm : ∀ c ∈ text, Calm c) :
    Shell.linesLeft text = 0 := by
  refine List.count_eq_zero.mpr fun member => ?_
  have blank := (calm '\n' member).blank (by decide)
  cases blank

/-- The shell reads the words of such a line as those of one simple command. -/
theorem line_calm (calm : ∀ c ∈ word ++ rest, Calm c) (starts : Starts word)
    (inside : ∀ c ∈ word, endsWord c = false) (stops : Stops rest) {found : List (List Char)}
    (cutting : words (word ++ rest) = some found) (total : Nat) :
    Shell.Reader.line total (word ++ rest) =
      .ok (.simple (total + 1) [] (found.map asPlain) [], []) := by
  have read (lists : Lists) := first_token lists calm starts inside stops
  have reserved := keyword?_starts starts
  -- The reader of inner lists is not used, whatever it is.
  unfold Shell.Reader.line Shell.Reader.list
  generalize Shell.Reader.list total (word ++ rest).length none = lists
  obtain ⟨left, command, ended⟩ := command_calm lists calm starts inside stops cutting
    (total + 1) (show (word ++ rest).length + 2 < (word ++ rest).length + 3 by omega)
  have pipeline : Shell.Reader.pipeline lists total ((word ++ rest).length + 1) [] (word ++ rest) =
      .ok (.simple (total + 1) [] (found.map asPlain) [], left) := by
    simp only [Shell.Reader.pipeline, linesLeft_calm calm, Nat.sub_zero, command, ended, bind,
      Except.bind, List.isEmpty_nil, if_true]
    rfl
  have negation : Shell.Reader.negation lists total (word ++ rest) =
      .ok (.simple (total + 1) [] (found.map asPlain) [], left) := by
    simp only [Shell.Reader.negation, read, reserved, pipeline, bind, Except.bind]
    rfl
  have conditional (first : Shell.Command) :
      Shell.Reader.conditional lists total (left.length + 1) first left = .ok (first, left) := by
    simp only [Shell.Reader.conditional, ended, bind, Except.bind]
    rfl
  simp only [read, negation, conditional, ended, bind, Except.bind, if_true, ne_eq, not_true,
    false_and, if_false]
  rfl

/-! Start commands -/

/-- All signs that are not calm. -/
def signs : List Char :=
  ['\'', '"', '\\', '$', '\x60', '#', '\n', ';', '&', '|', '<', '>', '(', ')']

theorem calm_of_apart {c : Char} (apart : c ∉ signs) : Calm c := by
  simp only [signs, List.mem_cons, List.not_mem_nil, or_false, not_or] at apart
  constructor
  · simp [isQuote, apart]
  · simp [apart]
  · simp [apart]
  · simp [endsWord, apart]

theorem calm_large {c : Char} (large : 0x80 ≤ c.toNat) : Calm c := by
  refine calm_of_apart fun member => ?_
  have small : ∀ sign ∈ signs, sign.toNat < 0x80 := List.all_iff_forall_prop.mp (by decide)
  have own := small c member
  omega

theorem calm_digit {c : Char} (digit : c.isDigit = true) : Calm c := by
  refine calm_of_apart fun member => ?_
  have none : ∀ sign ∈ signs, sign.isDigit = false := List.all_iff_forall_prop.mp (by decide)
  rw [none c member] at digit
  cases digit

/-- An octet is a character of the text, or none of those that mean something to the shell. -/
theorem mem_ofString {text : String} {c : Char} (small : c.toNat < 0x80) :
    c ∈ Shell.ofString text ↔ c ∈ text.toList := by
  rw [← Text.Utf8.mem_encode_iff small, Shell.ofString, Shell.ofBytes, List.mem_map]
  constructor
  · rintro ⟨byte, member, rfl⟩
    have bound := byte.toNat_lt
    have same : (Char.ofNat byte.toNat).toNat = byte.toNat :=
      Text.Utf8.toNat_ofNat (.inl (by omega))
    rwa [same, UInt8.ofNat_toNat]
  · intro member
    refine ⟨_, member, ?_⟩
    rw [Text.Utf8.toNat_byte (by omega), Char.ofNat_toNat]

theorem calm_ofString {text : String} (calm : ∀ c ∈ text.toList, Calm c) :
    ∀ c ∈ Shell.ofString text, Calm c := by
  intro c member
  by_cases small : c.toNat < 0x80
  · exact calm c ((mem_ofString small).mp member)
  · exact calm_large (by omega)

theorem ofString_append (text more : String) :
    Shell.ofString (text ++ more) = Shell.ofString text ++ Shell.ofString more := by
  simp [Shell.ofString, Shell.ofBytes, Text.Utf8.encode_eq]

theorem ofString_startCommand (family : Family) (token : Token) :
    Shell.ofString (family.startCommand token) =
      Shell.ofString family.tool ++
        ' ' :: (Shell.ofString "start-daemon" ++ ' ' :: Shell.ofString token.text) := by
  have middle : Shell.ofString " start-daemon " =
      ' ' :: (Shell.ofString "start-daemon" ++ [' ']) := by decide +kernel
  simp [Family.startCommand, ofString_append, middle]

/-- Without quotes there is nothing to close, so every text has its words. -/
theorem words_unquoted {text : List Char} (unquoted : ∀ c ∈ text, isQuote c = false) :
    ∃ found, words text = some found := by
  have whole : ∃ parts, cut .bare text = some parts := by
    induction text with
    | nil => exact ⟨_, rfl⟩
    | cons c text ih =>
      obtain ⟨parts, later⟩ := ih fun d member => unquoted d (List.mem_cons_of_mem _ member)
      rw [cut, next_plain (unquoted c List.mem_cons_self), later]
      exact ⟨_, rfl⟩
  obtain ⟨parts, cutting⟩ := whole
  exact ⟨_, by rw [words, cutting]; rfl⟩

theorem calm_decimal (n : Nat) : ∀ c ∈ (decimal n).toList, Calm c :=
  fun _ member => calm_digit (isDigit_decimal member)

theorem calm_tail (context : AppContext) (identity : Identity) :
    ∀ c ∈ tail context identity, Calm c := by
  have mark : Calm '@' := calm_of_apart (by decide)
  simp only [tail, List.mem_cons, List.mem_append]
  rintro c (rfl | pid | rfl | uid | rfl | area)
  · exact mark
  · exact calm_decimal _ c pid
  · exact mark
  · exact calm_decimal _ c uid
  · exact mark
  · exact calm_decimal _ c area

theorem calm_build {context : AppContext} (identity : Identity)
    (calm : ∀ c ∈ context.applicationName.toList, Calm c) :
    ∀ c ∈ (Token.build context identity).text.toList, Calm c := by
  rw [build_text]
  intro c member
  exact (List.mem_append.mp member).elim (calm c) (calm_tail context identity c)

theorem calm_startCommand (family : Family) {token : Token}
    (calm : ∀ c ∈ token.text.toList, Calm c) :
    ∀ c ∈ Shell.ofString (family.startCommand token), Calm c := by
  have tool : ∀ c ∈ family.tool.toList, c ∉ signs := by
    cases family <;> exact List.all_iff_forall_prop.mp (by decide)
  have start : ∀ c ∈ " start-daemon ".toList, c ∉ signs := List.all_iff_forall_prop.mp (by decide)
  refine calm_ofString fun c member => ?_
  rw [Family.startCommand, String.toList_append, String.toList_append] at member
  rcases List.mem_append.mp member with fixed | own
  · rcases List.mem_append.mp fixed with word | middle
    · exact calm_of_apart (tool c word)
    · exact calm_of_apart (start c middle)
  · exact calm c own

theorem tool_octets (family : Family) : Shell.ofString family.tool = family.tool.toList := by
  cases family <;> decide +kernel

theorem start_octets : Shell.ofString "start-daemon" = "start-daemon".toList := by decide +kernel

theorem starts_tool (family : Family) : Starts family.tool.toList := by
  cases family <;> exact ⟨by decide, by decide, by decide⟩

theorem words_octets (family : Family) (token : Token) :
    words (Shell.ofString (family.startCommand token)) =
      (words (Shell.ofString token.text)).map fun found =>
        Shell.ofString family.tool :: Shell.ofString "start-daemon" :: found := by
  rw [ofString_startCommand, tool_octets, start_octets,
    words_plain (by cases family <;> decide) (plain_tool family),
    words_plain (by decide) plain_start, Option.map_map]
  rfl

theorem small_of_blank {c : Char} (blank : isBlank c = true) : c.toNat < 0x80 := by
  simp only [isBlank, Bool.or_eq_true, decide_eq_true_eq] at blank
  rcases blank with (rfl | rfl) | rfl <;> decide

/-- The octets of a token hold a blank where its name does. -/
theorem blankless_octets (context : AppContext) (identity : Identity) :
    (∀ c ∈ Shell.ofString (Token.build context identity).text, isBlank c = false) ↔
      ∀ c ∈ context.applicationName.toList, isBlank c = false := by
  have ending := plain_tail context identity
  constructor
  · intro none c member
    by_contra blank
    rw [Bool.not_eq_false] at blank
    have inside : c ∈ (Token.build context identity).text.toList := by
      rw [build_text]
      exact List.mem_append_left _ member
    rw [none c ((mem_ofString (small_of_blank blank)).mpr inside)] at blank
    cases blank
  · intro none c member
    by_contra blank
    rw [Bool.not_eq_false] at blank
    have inside := (mem_ofString (small_of_blank blank)).mp member
    rw [build_text, List.mem_append] at inside
    rcases inside with name | behind
    · rw [none c name] at blank
      cases blank
    · rw [(ending c behind).1] at blank
      cases blank

/-- Where the token is calm, the shell reads the three words, the token whole, if and only if there
is no blank in it. -/
theorem line_startCommand (family : Family) {token : Token} (some_token : '@' ∈ token.text.toList)
    (calm : ∀ c ∈ token.text.toList, Calm c) (total : Nat) :
    Shell.Reader.line total (Shell.ofString (family.startCommand token)) =
        .ok (.simple (total + 1) []
          ([family.tool, "start-daemon", token.text].map fun word => asPlain (Shell.ofString word))
          [], []) ↔
      ∀ c ∈ Shell.ofString token.text, isBlank c = false := by
  have octets := calm_startCommand family calm
  obtain ⟨found, cutting⟩ := words_unquoted fun c member => (octets c member).unquoted
  have read := cutting
  rw [words_octets] at cutting
  obtain ⟨others, later, rfl⟩ := Option.map_eq_some_iff.mp cutting
  rw [ofString_startCommand] at octets read
  have inside : ∀ c ∈ Shell.ofString family.tool, endsWord c = false := by
    rw [tool_octets]
    cases family <;> exact List.all_iff_forall_prop.mp (by decide)
  have stops :
      Stops (' ' :: (Shell.ofString "start-daemon" ++ ' ' :: Shell.ofString token.text)) := by
    simp [Stops, Shell.isBlank]
  have line := line_calm octets (tool_octets family ▸ starts_tool family) inside stops read total
  have some_octet : Shell.ofString token.text ≠ [] :=
    List.ne_nil_of_mem ((mem_ofString (by decide)).mpr some_token)
  have unquoted : ∀ c ∈ Shell.ofString token.text, isQuote c = false := fun c member =>
    (calm_ofString calm c member).unquoted
  rw [ofString_startCommand, line, ← unbroken_unquoted unquoted, ← words_eq_self some_octet, later]
  constructor
  · intro same
    simpa [asPlain] using same
  · intro one
    obtain rfl := Option.some.inj one
    rfl

/-- Which part of a start command the token is, as far as blanks and quotes decide. The third word
is written as the token is if and only if every blank of the name is quoted; it is the token, once
quotes are removed, if and only if there are neither blanks nor quotes nor backslashes in the
name. Where blanks are the only signs in the name that mean anything to the shell, this is how it
reads the command; nothing is said of what it makes of a name with `;`, `$`, `#` and their like.
-/
theorem token_given_whole (family : Family) (context : AppContext) (identity : Identity) :
    let token := Token.build context identity
    let command := family.startCommand token
    (written command = some [family.tool, "start-daemon", token.text] ↔
      Closed context.applicationName) ∧
    (given command = some [family.tool, "start-daemon", token.text] ↔
      ∀ c ∈ context.applicationName.toList, Plain c) ∧
    ((∀ c ∈ context.applicationName.toList, Calm c) → ∀ total,
      (Shell.Reader.line total (Shell.ofString command) =
          .ok (.simple (total + 1) []
            ([family.tool, "start-daemon", token.text].map fun word =>
              asPlain (Shell.ofString word)) [], []) ↔
        ∀ c ∈ context.applicationName.toList, isBlank c = false)) := by
  intro token command
  obtain ⟨whole, plain⟩ := token_one_word family context identity
  refine ⟨whole, plain, fun calm total => ?_⟩
  have mark : '@' ∈ token.text.toList := by
    rw [build_text]
    simp [tail]
  rw [line_startCommand family mark (calm_build identity calm) total, blankless_octets]

/-- A blank in the name ends the word that the token begins. -/
theorem two_words_parted :
    given (Family.ui.startCommand (Token.build ⟨"two words", 1⟩ ⟨7, 0⟩)) =
        some ["uitest", "start-daemon", "two", "words@7@0@1"] ∧
      ["uitest", "start-daemon", "two", "words@7@0@1"] ≠
        [Family.ui.tool, "start-daemon", (Token.build ⟨"two words", 1⟩ ⟨7, 0⟩).text] := by
  decide +kernel

end Rendezvous.Splitting

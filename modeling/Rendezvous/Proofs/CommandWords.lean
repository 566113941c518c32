import Mathlib.Data.Bool.AllAny
import Mathlib.Data.List.Basic
import Mathlib.Tactic.ByContra
import Rendezvous.Family

/-! How a start command is cut into words at its blanks, and what is left of them without quotes.
Blanks separate words where they are not quoted; quotes and backslashes are taken out of the words
afterwards. The token is pasted into the command as it is, so it is one word, and that word is the
token again, only for names without blanks, quotes and backslashes. All other signs count as letters
here, also those that mean more to a shell: `;`, `&`, `|`, `<`, `>`, `(`, `)`, `#`, `$` and the back
quote. -/
namespace Rendezvous.Splitting

/-- Spaces, tabs and newlines. -/
def isBlank (c : Char) : Bool := c = ' ' || c = '\t' || c = '\n'

/-- Characters that quote others and are then taken out of their word. -/
def isQuote (c : Char) : Bool := c = '\'' || c = '"' || c = '\\'

/-- Where a character of a command stands. -/
inductive Place where
  | bare
  | single
  | double
  /-- Behind a backslash, perhaps in double quotes. -/
  | escaped (inQuotes : Bool)
  deriving DecidableEq

namespace Place

def next : Place → Char → Place
  | .bare, c =>
    if c = '\'' then .single else if c = '"' then .double
    else if c = '\\' then .escaped false else .bare
  | .single, c => if c = '\'' then .bare else .single
  | .double, c => if c = '"' then .bare else if c = '\\' then .escaped true else .double
  | .escaped inQuotes, _ => if inQuotes then .double else .bare

/-- The place behind a text. -/
def behind (start : Place) (text : List Char) : Place := text.foldl next start

/-- A backslash that has been read, and is decided upon with the next character. -/
def held : Place → List Char
  | .escaped _ => ['\\']
  | _ => []

/-- What a character brings to a word that is not rid of its quotes yet; nothing, if it separates
two words. A newline behind a backslash joins two lines. -/
def brings : Place → Char → Option (List Char)
  | .bare, c => if isBlank c then none else if c = '\\' then some [] else some [c]
  | .single, c => some [c]
  | .double, c => if c = '\\' then some [] else some [c]
  | .escaped _, c => if c = '\n' then some [] else some ['\\', c]

/-- Whether a character separates words or joins lines, so that it is in no word. -/
def drops : Place → Char → Bool
  | .bare, c => isBlank c
  | .escaped _, c => c = '\n'
  | _, _ => false

/-- What a character of a word leaves when quotes are removed. In double quotes a backslash quotes
few characters. -/
def leaves : Place → Char → List Char
  | .bare, c => if isQuote c then [] else [c]
  | .single, c => if c = '\'' then [] else [c]
  | .double, c => if c = '"' ∨ c = '\\' then [] else [c]
  | .escaped inQuotes, c =>
    if inQuotes ∧ ¬(c = '$' ∨ c = '\x60' ∨ c = '"' ∨ c = '\\') then ['\\', c] else [c]

end Place

/-- The end of the word that is being read, and the words behind it. Nothing, if a quote is open at
the end. -/
def cut : Place → List Char → Option (List Char × List (List Char))
  | .bare, [] => some ([], [])
  | _, [] => none
  | place, c :: rest =>
    (cut (place.next c) rest).map fun (word, words) =>
      match place.brings c with
      | some chars => (chars ++ word, words)
      | none => ([], if word = [] then words else word :: words)

/-- The words of a text, with the quotes in them. -/
def words (text : List Char) : Option (List (List Char)) :=
  (cut .bare text).map fun (word, words) => if word = [] then words else word :: words

def unquote : Place → List Char → List Char
  | _, [] => []
  | place, c :: rest => place.leaves c ++ unquote (place.next c) rest

/-- The words of a command as they are written. -/
def written (command : String) : Option (List String) :=
  (words command.toList).map (·.map String.ofList)

/-- The words of a command without their quotes. A program is given them if nothing else in the
command means anything to the shell. -/
def given (command : String) : Option (List String) :=
  (words command.toList).map (·.map fun word => String.ofList (unquote .bare word))

/-! Texts that are one word -/

/-- Nothing in the text separates words or joins lines, and all quotes are closed. -/
def Unbroken : Place → List Char → Prop
  | place, [] => place = .bare
  | place, c :: rest => place.drops c = false ∧ Unbroken (place.next c) rest

/-- Only a backslash is held, where it may quote. -/
theorem held_next (place : Place) (c : Char) : (place.next c).held =
    if c = '\\' ∧ (place = .bare ∨ place = .double) then ['\\'] else [] := by
  rcases place with _ | _ | _ | inQuotes
  · by_cases backslash : c = '\\'
    · subst backslash
      rfl
    · simp only [Place.next, backslash, false_and, if_false]
      split_ifs <;> rfl
  · by_cases closing : c = '\'' <;> simp [Place.next, Place.held, closing]
  · by_cases backslash : c = '\\'
    · subst backslash
      rfl
    · simp only [Place.next, backslash, false_and, if_false]
      split_ifs <;> rfl
  · cases inQuotes <;> simp [Place.next, Place.held]

/-- What a character that is kept brings, and what is held behind it, is what was held before and
the character. -/
theorem brings_kept {place : Place} {c : Char} (kept : place.drops c = false) :
    ∃ chars, place.brings c = some chars ∧
      chars ++ (place.next c).held = place.held ++ [c] := by
  rw [held_next]
  rcases place with _ | _ | _ | inQuotes
  · by_cases backslash : c = '\\'
    · subst backslash
      exact ⟨[], rfl, rfl⟩
    · exact ⟨[c], by simp [Place.brings, show isBlank c = false from kept, backslash],
        by simp [Place.held, backslash]⟩
  · exact ⟨[c], rfl, by simp [Place.held]⟩
  · by_cases backslash : c = '\\'
    · subst backslash
      exact ⟨[], rfl, rfl⟩
    · exact ⟨[c], by simp [Place.brings, backslash], by simp [Place.held, backslash]⟩
  · have other : c ≠ '\n' := by simpa [Place.drops] using kept
    exact ⟨['\\', c], by simp [Place.brings, other], by simp [Place.held]⟩

/-- A character that is dropped brings nothing. -/
theorem brings_dropped {place : Place} {c : Char} (dropped : place.drops c = true) :
    (place.brings c = none ∨ place.brings c = some []) ∧ (place.next c).held = [] := by
  rcases place with _ | _ | _ | inQuotes
  · have blank : isBlank c = true := dropped
    refine ⟨.inl (by simp [Place.brings, blank]), ?_⟩
    rw [held_next, if_neg]
    rintro ⟨rfl, -⟩
    cases blank
  · cases dropped
  · cases dropped
  · have newline : c = '\n' := by simpa [Place.drops] using dropped
    exact ⟨.inr (by simp [Place.brings, newline]), by simp [held_next]⟩

theorem cut_unbroken {place : Place} {text : List Char} (whole : Unbroken place text) :
    cut place text = some (place.held ++ text, []) := by
  induction text generalizing place with
  | nil =>
    obtain rfl : place = .bare := whole
    rfl
  | cons c rest ih =>
    obtain ⟨kept, whole⟩ := whole
    obtain ⟨chars, brings, joined⟩ := brings_kept kept
    have text : chars ++ ((place.next c).held ++ rest) = place.held ++ c :: rest := by
      rw [← List.append_assoc, joined, List.append_assoc]
      rfl
    rw [cut, ih whole, Option.map_some, brings]
    exact congrArg (fun word => some (word, [])) text

theorem flatten_cons_length (word : List Char) (words : List (List Char)) :
    (if word = [] then words else word :: words).flatten.length =
      word.length + words.flatten.length := by
  split <;> simp [*]

/-- The words hold no more than the text does, and as much only if nothing breaks it. -/
theorem cut_length {place : Place} {text word : List Char} {words : List (List Char)}
    (found : cut place text = some (word, words)) :
    word.length + words.flatten.length ≤ place.held.length + text.length ∧
      (place.held.length + text.length ≤ word.length + words.flatten.length →
        Unbroken place text) := by
  induction text generalizing place word words with
  | nil =>
    cases place with
    | bare =>
      obtain ⟨rfl, rfl⟩ := Prod.mk.inj (Option.some.inj found)
      exact ⟨Nat.le_refl _, fun _ => rfl⟩
    | single | double | escaped => cases found
  | cons c rest ih =>
    rw [cut, Option.map_eq_some_iff] at found
    obtain ⟨⟨front, others⟩, later, made⟩ := found
    obtain ⟨most, whole⟩ := ih later
    cases dropped : place.drops c with
    | false =>
      obtain ⟨chars, brings, joined⟩ := brings_kept dropped
      have sizes := congrArg List.length joined
      simp only [List.length_append, List.length_cons, List.length_nil] at sizes
      simp only [brings, Prod.mk.injEq] at made
      obtain ⟨rfl, rfl⟩ := made
      simp only [List.length_append, List.length_cons]
      exact ⟨by omega, fun least => ⟨dropped, whole (by omega)⟩⟩
    | true =>
      obtain ⟨nothing, held⟩ := brings_dropped dropped
      rw [held] at most
      have kept : word.length + words.flatten.length = front.length + others.flatten.length := by
        rcases nothing with none | empty
        · simp only [none, Prod.mk.injEq] at made
          obtain ⟨rfl, rfl⟩ := made
          rw [flatten_cons_length, List.length_nil, Nat.zero_add]
        · simp only [empty, Prod.mk.injEq, List.nil_append] at made
          obtain ⟨rfl, rfl⟩ := made
          rfl
      simp only [List.length_cons, List.length_nil] at most ⊢
      exact ⟨by omega, fun least => absurd least (by omega)⟩

theorem words_length {text : List Char} {found : List (List Char)}
    (cutting : words text = some found) :
    found.flatten.length ≤ text.length ∧
      (text.length ≤ found.flatten.length → Unbroken .bare text) := by
  obtain ⟨⟨word, others⟩, parts, rfl⟩ := Option.map_eq_some_iff.mp cutting
  have bound := cut_length parts
  rw [flatten_cons_length]
  simpa only [Place.held, List.length_nil, Nat.zero_add] using bound

/-- A text is its own only word if and only if nothing breaks it. -/
theorem words_eq_self {text : List Char} (some_text : text ≠ []) :
    words text = some [text] ↔ Unbroken .bare text := by
  constructor
  · intro one
    exact (words_length one).2 (by simp)
  · intro whole
    rw [words, cut_unbroken whole]
    simp [Place.held, some_text]

/-! Removing quotes -/

theorem next_plain {c : Char} (plain : isQuote c = false) : Place.bare.next c = .bare := by
  simp only [isQuote, Bool.or_eq_false_iff, decide_eq_false_iff_not] at plain
  simp [Place.next, plain]

theorem unquote_plain {text : List Char} (plain : ∀ c ∈ text, isQuote c = false) :
    unquote .bare text = text := by
  induction text with
  | nil => rfl
  | cons c rest ih =>
    have own := plain c List.mem_cons_self
    rw [unquote, next_plain own, ih fun d member => plain d (List.mem_cons_of_mem _ member)]
    simp [Place.leaves, own]

/-- A backslash in double quotes is the only character that leaves its meaning to the next one. -/
theorem next_eq_escaped {place : Place} {c : Char} :
    place.next c = .escaped true ↔ place = .double ∧ c = '\\' := by
  rcases place with _ | _ | _ | inQuotes
  · simp only [Place.next]
    split_ifs <;> simp
  · simp only [Place.next]
    split_ifs <;> simp
  · simp only [Place.next]
    split_ifs with quote backslash
    · simp [quote]
    · simp [backslash]
    · simp [backslash]
  · cases inQuotes <;> simp [Place.next]

/-- Removing quotes never adds to a text; in double quotes, a backslash may still be due. -/
theorem unquote_length (place : Place) (text : List Char) :
    (unquote place text).length ≤ (if place = .escaped true then 1 else 0) + text.length := by
  induction text generalizing place with
  | nil => simp [unquote]
  | cons c rest ih =>
    have later := ih (place.next c)
    have own : (place.leaves c).length + (if place.next c = .escaped true then 1 else 0) ≤
        (if place = .escaped true then 1 else 0) + 1 := by
      simp only [next_eq_escaped]
      rcases place with _ | _ | _ | inQuotes
      · simp only [Place.leaves]
        split <;> simp
      · simp only [Place.leaves]
        split <;> simp
      · by_cases backslash : c = '\\'
        · simp [Place.leaves, backslash]
        · simp only [Place.leaves, backslash]
          split <;> simp
      · cases inQuotes
        · simp [Place.leaves]
        · simp only [Place.leaves]
          split <;> simp
    rw [unquote, List.length_append, List.length_cons]
    omega

theorem plain_of_unquote {text : List Char} (same : unquote .bare text = text) :
    ∀ c ∈ text, isQuote c = false := by
  induction text with
  | nil => simp
  | cons c rest ih =>
    cases own : isQuote c with
    | false =>
      rw [unquote, next_plain own, Place.leaves, own] at same
      simpa [own] using ih (List.cons.inj same).2
    | true =>
      have shorter := unquote_length (Place.bare.next c) rest
      rw [if_neg (by simp [next_eq_escaped])] at shorter
      have size := congrArg List.length same
      simp only [unquote, Place.leaves, own, if_true, List.nil_append, List.length_cons] at size
      omega

/-! Start commands -/

/-- A character that separates no words and quotes nothing. -/
def Plain (c : Char) : Prop := isBlank c = false ∧ isQuote c = false

instance (c : Char) : Decidable (Plain c) := inferInstanceAs (Decidable (_ ∧ _))

theorem cut_plain {word : List Char} (plain : ∀ c ∈ word, Plain c) (rest : List Char) :
    cut .bare (word ++ rest) = (cut .bare rest).map fun (more, words) => (word ++ more, words) := by
  induction word with
  | nil => simp
  | cons c word ih =>
    obtain ⟨solid, own⟩ := plain c List.mem_cons_self
    have backslash : c ≠ '\\' := by
      rintro rfl
      cases own
    rw [List.cons_append, cut, next_plain own,
      ih fun d member => plain d (List.mem_cons_of_mem _ member)]
    simp [Place.brings, solid, backslash, Function.comp_def]

/-- A word of plain characters is the first word of what it begins, if a blank follows it. -/
theorem words_plain {word : List Char} (some_word : word ≠ [])
    (plain : ∀ c ∈ word, Plain c) (rest : List Char) :
    words (word ++ ' ' :: rest) = (words rest).map (word :: ·) := by
  have blank : cut .bare (' ' :: rest) = (cut .bare rest).map fun (more, words) =>
      ([], if more = [] then words else more :: words) := rfl
  rw [words, words, cut_plain plain, blank]
  simp [Function.comp_def, some_word]

theorem plain_tool (family : Family) : ∀ c ∈ family.tool.toList, Plain c := by
  cases family <;> exact List.all_iff_forall_prop.mp (by decide)

theorem plain_start : ∀ c ∈ "start-daemon".toList, Plain c :=
  List.all_iff_forall_prop.mp (by decide)

theorem words_startCommand (family : Family) (token : Token) :
    words (family.startCommand token).toList =
      (words token.text.toList).map fun found =>
        family.tool.toList :: "start-daemon".toList :: found := by
  have text : (family.startCommand token).toList =
      family.tool.toList ++ ' ' :: ("start-daemon".toList ++ ' ' :: token.text.toList) := by
    have middle : " start-daemon ".toList = ' ' :: ("start-daemon".toList ++ [' ']) := by decide
    simp [Family.startCommand, middle]
  rw [text, words_plain (by cases family <;> decide) (plain_tool family),
    words_plain (by decide) plain_start, Option.map_map]
  rfl

/-! Tokens -/

/-- Every blank of the name is quoted, no two lines are joined, and all quotes are closed. -/
def Closed (name : String) : Prop :=
  (∀ before c after, name.toList = before ++ c :: after →
    (Place.bare.behind before).drops c = false) ∧
  (Place.bare.behind name.toList = .bare ∨ Place.bare.behind name.toList = .escaped false)

/-- What stands behind the name. -/
def tail (context : AppContext) (identity : Identity) : List Char :=
  '@' :: ((decimal identity.pid.toNat).toList ++ '@' :: ((decimal identity.uid.toNat).toList ++
    '@' :: (decimal context.area.toNat).toList))

theorem build_text (context : AppContext) (identity : Identity) :
    (Token.build context identity).text.toList =
      context.applicationName.toList ++ tail context identity := by
  simp [Token.build, tail]

theorem isDigit_decimal {n : Nat} {c : Char} (member : c ∈ (decimal n).toList) :
    c.isDigit = true :=
  Nat.isDigit_of_mem_toDigits (b := 10) (by decide) (by decide)
    (by simpa [decimal] using member)

theorem plain_decimal (n : Nat) : ∀ c ∈ (decimal n).toList, Plain c := by
  intro c member
  have digit := isDigit_decimal member
  constructor
  · by_contra blank
    simp only [isBlank, Bool.not_eq_false, Bool.or_eq_true, decide_eq_true_eq] at blank
    rcases blank with (rfl | rfl) | rfl <;> cases digit
  · by_contra quote
    simp only [isQuote, Bool.not_eq_false, Bool.or_eq_true, decide_eq_true_eq] at quote
    rcases quote with (rfl | rfl) | rfl <;> cases digit

theorem plain_tail (context : AppContext) (identity : Identity) :
    ∀ c ∈ tail context identity, Plain c := by
  have mark : Plain '@' := by decide
  simp only [tail, List.mem_cons, List.mem_append]
  rintro c (rfl | pid | rfl | uid | rfl | area)
  · exact mark
  · exact plain_decimal _ c pid
  · exact mark
  · exact plain_decimal _ c uid
  · exact mark
  · exact plain_decimal _ c area

theorem unbroken_append {place : Place} {name rest : List Char} :
    Unbroken place (name ++ rest) ↔
      (∀ before c after, name = before ++ c :: after → (place.behind before).drops c = false) ∧
        Unbroken (place.behind name) rest := by
  induction name generalizing place with
  | nil => simp [Place.behind]
  | cons d name ih =>
    rw [List.cons_append, Unbroken, ih, ← and_assoc]
    refine and_congr_left fun _ => ⟨?_, fun each => ⟨each [] d name rfl, ?_⟩⟩
    · rintro ⟨first, others⟩ before c after split
      cases before with
      | nil =>
        obtain ⟨rfl, -⟩ := List.cons.inj split
        exact first
      | cons e before =>
        obtain ⟨rfl, later⟩ := List.cons.inj split
        exact others before c after later
    · intro before c after split
      exact each (d :: before) c after (congrArg (d :: ·) split)

theorem settled_plain {place : Place} (settled : ∀ inQuotes, place ≠ .escaped inQuotes) {c : Char}
    (plain : Plain c) : place.drops c = false ∧ place.next c = place := by
  obtain ⟨solid, unquoted⟩ := plain
  have others := unquoted
  simp only [isQuote, Bool.or_eq_false_iff, decide_eq_false_iff_not] at others
  rcases place with _ | _ | _ | inQuotes
  · exact ⟨solid, next_plain unquoted⟩
  · simp [Place.drops, Place.next, others]
  · simp [Place.drops, Place.next, others]
  · exact absurd rfl (settled inQuotes)

/-- Plain characters end no quotes, and keep none from being open. -/
theorem unbroken_plain {text : List Char} (plain : ∀ c ∈ text, Plain c) {place : Place}
    (settled : ∀ inQuotes, place ≠ .escaped inQuotes) : Unbroken place text ↔ place = .bare := by
  induction text with
  | nil => rfl
  | cons c text ih =>
    obtain ⟨solid, unquoted⟩ := plain c List.mem_cons_self
    obtain ⟨kept, stays⟩ := settled_plain settled ⟨solid, unquoted⟩
    rw [Unbroken, stays, ih fun d member => plain d (List.mem_cons_of_mem _ member)]
    simp [kept]

theorem unbroken_tail (context : AppContext) (identity : Identity) (place : Place) :
    Unbroken place (tail context identity) ↔ place = .bare ∨ place = .escaped false := by
  have plain := plain_tail context identity
  rcases place with _ | _ | _ | inQuotes
  · simp [unbroken_plain plain]
  · simp [unbroken_plain plain]
  · simp [unbroken_plain plain]
  · -- The first mark is behind the backslash, and what follows it is not.
    have digits := fun c member => plain c (List.mem_cons_of_mem '@' member)
    rw [tail, Unbroken, unbroken_plain digits (by cases inQuotes <;> simp [Place.next])]
    cases inQuotes <;> simp [Place.next, Place.drops]

theorem unbroken_build (context : AppContext) (identity : Identity) :
    Unbroken .bare (Token.build context identity).text.toList ↔ Closed context.applicationName := by
  rw [build_text, unbroken_append, unbroken_tail, Closed]

/-- Where nothing is quoted, the words are whole only if there are no blanks. -/
theorem unbroken_unquoted {text : List Char} (unquoted : ∀ c ∈ text, isQuote c = false) :
    Unbroken .bare text ↔ ∀ c ∈ text, isBlank c = false := by
  induction text with
  | nil => simp [Unbroken]
  | cons c text ih =>
    rw [Unbroken, next_plain (unquoted c List.mem_cons_self),
      ih fun d member => unquoted d (List.mem_cons_of_mem _ member)]
    simp [Place.drops]

theorem written_startCommand (family : Family) (token : Token) :
    written (family.startCommand token) = some [family.tool, "start-daemon", token.text] ↔
      words token.text.toList = some [token.text.toList] := by
  rw [written, words_startCommand, Option.map_map]
  constructor
  · intro whole
    obtain ⟨found, cutting, same⟩ := Option.map_eq_some_iff.mp whole
    obtain ⟨-, -, last⟩ := by simpa only [Function.comp, List.map_cons, List.cons.injEq] using same
    obtain ⟨word, rfl, text⟩ := List.map_eq_singleton_iff.mp last
    rw [cutting, ← text, String.toList_ofList]
  · intro one
    simp [one]

/-- A word is never longer without its quotes, and what is written is never longer than the token.
-/
theorem given_startCommand (family : Family) (token : Token) (some_text : token.text.toList ≠ []) :
    given (family.startCommand token) = some [family.tool, "start-daemon", token.text] ↔
      Unbroken .bare token.text.toList ∧ ∀ c ∈ token.text.toList, isQuote c = false := by
  have fixed (word : List Char) (plain : ∀ c ∈ word, isQuote c = false) :
      String.ofList (unquote .bare word) = String.ofList word := by rw [unquote_plain plain]
  rw [given, words_startCommand, Option.map_map]
  constructor
  · intro whole
    obtain ⟨found, cutting, same⟩ := Option.map_eq_some_iff.mp whole
    obtain ⟨-, -, last⟩ := by simpa only [Function.comp, List.map_cons, List.cons.injEq] using same
    obtain ⟨word, rfl, text⟩ := List.map_eq_singleton_iff.mp last
    have removed : unquote .bare word = token.text.toList := by
      rw [← text, String.toList_ofList]
    have shorter := unquote_length .bare word
    rw [removed, if_neg (by simp), Nat.zero_add] at shorter
    have unbroken := (words_length cutting).2 (by simpa using shorter)
    rw [(words_eq_self some_text).mpr unbroken, Option.some.injEq] at cutting
    obtain rfl := List.singleton_inj.mp cutting
    exact ⟨unbroken, plain_of_unquote removed⟩
  · rintro ⟨unbroken, plain⟩
    have tool := fixed _ fun c member => (plain_tool family c member).2
    have start := fixed _ fun c member => (plain_start c member).2
    simp only [(words_eq_self some_text).mpr unbroken, Option.map_some, Function.comp,
      List.map_cons, List.map_nil, fixed _ plain, tool, start, String.ofList_toList]

/-- The command has three words, of which the last is written as the token is, only if every blank
of the name is quoted; and without quotes the last word is the token only if there is nothing to
quote or to remove in the name. -/
theorem token_one_word (family : Family) (context : AppContext) (identity : Identity) :
    let token := Token.build context identity
    (written (family.startCommand token) = some [family.tool, "start-daemon", token.text] ↔
      Closed context.applicationName) ∧
    (given (family.startCommand token) = some [family.tool, "start-daemon", token.text] ↔
      ∀ c ∈ context.applicationName.toList, Plain c) := by
  have some_text : (Token.build context identity).text.toList ≠ [] := by
    simp [build_text, tail]
  have ending := plain_tail context identity
  refine ⟨?_, ?_⟩
  · rw [written_startCommand, words_eq_self some_text, unbroken_build]
  · rw [given_startCommand _ _ some_text]
    constructor
    · rintro ⟨unbroken, unquoted⟩ c member
      have inside : c ∈ (Token.build context identity).text.toList := by
        rw [build_text]
        exact List.mem_append_left _ member
      exact ⟨(unbroken_unquoted unquoted).mp unbroken c inside, unquoted c inside⟩
    · intro plain
      have all : ∀ c ∈ (Token.build context identity).text.toList, Plain c := by
        rw [build_text]
        intro c member
        exact (List.mem_append.mp member).elim (plain c) (ending c)
      have unquoted := fun c member => (all c member).2
      exact ⟨(unbroken_unquoted unquoted).mpr fun c member => (all c member).1, unquoted⟩

end Rendezvous.Splitting

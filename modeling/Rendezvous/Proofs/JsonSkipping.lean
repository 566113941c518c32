import Rendezvous.Json.Reader

/-! Passing over a part of a JSON text leads where reading it leads. A part may be passed over that
cannot be read, with a number out of range or a surrogate that stands alone; but where both can be
done, the same text is left. -/
namespace Rendezvous

/-- Two steps succeed if the first does and the second does with its result. -/
theorem bind_eq_ok {first : Except ε α} {second : α → Except ε β} {result : β} :
    first >>= second = .ok result ↔ ∃ value, first = .ok value ∧ second value = .ok result := by
  cases first <;> simp [bind, Except.bind]

/-- Two computations whose results, if both have one, go together. -/
def Concur (together : α → β → Prop) (one : Except ε α) (two : Except ε β) : Prop :=
  ∀ a b, one = .ok a → two = .ok b → together a b

namespace Concur

variable {together : α → β → Prop} {further : γ → δ → Prop}

@[simp] theorem ok_ok {a : α} {b : β} :
    Concur together (.ok a : Except ε α) (.ok b) ↔ together a b := by
  constructor
  · exact fun concur => concur a b rfl rfl
  · rintro both _ _ ⟨⟩ ⟨⟩
    exact both

@[simp] theorem pure_pure {a : α} {b : β} :
    Concur together (pure a : Except ε α) (pure b) ↔ together a b := ok_ok

@[simp] theorem error_left (fault : ε) (two : Except ε β) :
    Concur together (.error fault) two := by
  rintro _ _ ⟨⟩

@[simp] theorem error_right (one : Except ε α) (fault : ε) :
    Concur together one (.error fault) := by
  rintro _ _ _ ⟨⟩

theorem swap {one : Except ε α} {two : Except ε β} (concur : Concur together one two) :
    Concur (fun b a => together a b) two one := fun b a second first => concur a b first second

/-- Computations concur if they go on alike from wherever their first steps come out together. -/
theorem bind {one : Except ε α} {two : Except ε β} {next : α → Except ε γ} {after : β → Except ε δ}
    (first : Concur together one two)
    (rest : ∀ a b, together a b → Concur further (next a) (after b)) :
    Concur further (one >>= next) (two >>= after) := by
  cases one with
  | error fault => rintro _ _ ⟨⟩
  | ok a =>
    cases two with
    | error fault => rintro _ _ _ ⟨⟩
    | ok b => exact rest a b (ok_ok.mp first)

/-- Their first step may be one and the same. -/
theorem bind_same {first : Except ε α} {next : α → Except ε γ} {after : α → Except ε δ}
    (rest : ∀ a, Concur further (next a) (after a)) :
    Concur further (first >>= next) (first >>= after) := by
  cases first with
  | error fault => rintro _ _ ⟨⟩
  | ok a => exact rest a

end Concur

namespace Json

/-- What is left behind a part that was read is left behind it when it is passed over. -/
def Beyond (read : α × List Char) (left : List Char) : Prop := left = read.2

/-- Two readings of one part leave the same text, and what they have made of it goes together. -/
def Beside (together : α → β → Prop) (read : α × List Char) (other : β × List Char) : Prop :=
  other.2 = read.2 ∧ together read.1 other.1

/-- What a part is read into does not matter for what is left behind it. -/
theorem beyond_map {one : Except Fault (α × List Char)} {two : Except Fault (List Char)}
    (concur : Concur Beyond one two) (f : α → β) :
    Concur Beyond (do
      let (value, rest) ← one
      return (f value, rest)) two := by
  intro a b read left
  obtain ⟨⟨value, rest⟩, found, same⟩ := bind_eq_ok.mp read
  obtain rfl : (f value, rest) = a := Except.ok.inj same
  exact concur (value, rest) b found left

/-! Strings -/

/-- A character leaves what stands behind its unit, or behind that of its partner. -/
theorem readCharacter_rest {unit : Nat} {text rest : List Char} {meant : Char}
    (read : readCharacter unit text = .ok (meant, rest)) :
    rest = text ∨
      ∃ more partner, text = '\\' :: 'u' :: more ∧ readUnit more = .ok (partner, rest) := by
  unfold readCharacter at read
  split at read
  · cases read
  · split at read
    · exact .inl (Prod.mk.inj (Except.ok.inj read)).2.symm
    · split at read
      · cases read
      · cases read
      · rename_i more
        obtain ⟨⟨partner, behind⟩, unit, paired⟩ := bind_eq_ok.mp read
        dsimp only at paired
        split at paired
        · obtain ⟨-, rfl⟩ := Prod.mk.inj (Except.ok.inj paired)
          exact .inr ⟨more, partner, rfl, unit⟩
        · cases paired
      · cases read

theorem skipEscape_unit {text : List Char} {unit : Nat} {rest : List Char}
    (units : readUnit text = .ok (unit, rest)) : skipEscape ('u' :: text) = .ok rest := by
  have long : shortEscape? 'u' = none := by decide
  simp [skipEscape, long, units, Except.map]

/-- An escape is passed over in one step, a pair of surrogates in two. -/
theorem skipEscape_of_readEscape {text rest : List Char} {meant : Char}
    (read : readEscape text = .ok (meant, rest)) :
    skipEscape text = .ok rest ∨
      ∃ second, skipEscape text = .ok ('\\' :: second) ∧ skipEscape second = .ok rest := by
  cases text with
  | nil => cases read
  | cons c tail =>
    simp only [readEscape] at read
    cases short : shortEscape? c with
    | some _ =>
      rw [short] at read
      obtain ⟨-, rfl⟩ := Prod.mk.inj (Except.ok.inj read)
      exact .inl (by simp [skipEscape, short])
    | none =>
      rw [short] at read
      dsimp only at read
      split at read
      · rename_i unit
        subst unit
        obtain ⟨⟨unit, behind⟩, units, read⟩ := bind_eq_ok.mp read
        rcases readCharacter_rest read with rfl | ⟨more, partner, rfl, partners⟩
        · exact .inl (skipEscape_unit units)
        · exact .inr ⟨'u' :: more, skipEscape_unit units, skipEscape_unit partners⟩
      · cases read

theorem skipString_concurs (read passed : Nat) (text : List Char) :
    Concur Beyond (readString read text) (skipString passed text) := by
  induction read generalizing passed text with
  | zero => exact Concur.error_left _ _
  | succ read ih =>
    cases passed with
    | zero => exact Concur.error_right _ _
    | succ passed =>
      cases text with
      | nil => exact Concur.error_left _ _
      | cons c rest =>
        unfold readString skipString
        split
        · simp [Beyond]
        · split
          · intro a b found left
            obtain ⟨⟨meant, behind⟩, escaped, found⟩ := bind_eq_ok.mp found
            obtain ⟨after, skipped, left⟩ := bind_eq_ok.mp left
            rcases skipEscape_of_readEscape escaped with whole | ⟨second, half, other⟩
            · obtain rfl : behind = after := Except.ok.inj (whole.symm.trans skipped)
              exact beyond_map (ih passed behind) (meant :: ·) a b found left
            · -- A pair of surrogates is one character, but two escapes to pass over.
              obtain rfl : '\\' :: second = after := Except.ok.inj (half.symm.trans skipped)
              cases passed with
              | zero => cases left
              | succ passed =>
                rw [skipString, if_neg (by decide), if_pos rfl, other] at left
                exact beyond_map (ih passed behind) (meant :: ·) a b found left
          · split
            · exact Concur.error_left _ _
            · exact beyond_map (ih passed rest) (c :: ·)

/-! Values without parts -/

theorem word_concurs (value : Value) (letters text : List Char) :
    Concur Beyond (do return (value, ← word letters text)) (word letters text) := by
  cases word letters text with
  | error fault => exact Concur.error_right _ _
  | ok left => exact Concur.ok_ok.mpr rfl

theorem number_concurs (text : List Char) :
    Concur Beyond (Number.read text) (match Numeral.read text with
      | .ok (_, rest) => .ok rest
      | .error fault => .error (.malformed fault.detail)) := by
  intro a b read left
  obtain ⟨⟨numeral, behind⟩, found, read⟩ := bind_eq_ok.mp read
  obtain ⟨number, -, same⟩ := bind_eq_ok.mp read
  rw [found] at left
  obtain rfl : (number, behind) = a := Except.ok.inj same
  exact (Except.ok.inj left).symm

theorem skipScalar_concurs (text : List Char) :
    Concur Beyond (scalar text) (skipScalar text) := by
  cases text with
  | nil => exact Concur.error_left _ _
  | cons c rest =>
    rw [scalar, skipScalar]
    split
    · exact word_concurs _ _ _
    split
    · exact word_concurs _ _ _
    split
    · exact word_concurs _ _ _
    split
    · exact beyond_map (number_concurs (c :: rest)) Value.number
    split
    · exact beyond_map (beyond_map (skipString_concurs _ _ rest) String.ofList) Value.string
    · exact Concur.error_left _ _

/-! Arrays and objects -/

section

variable {together : α → β → Prop}

/-- Two ways of reading an array stay together if they do at each item, however long they may go
on. -/
theorem items_concur {one : α → Reader α} {two : β → Reader β}
    (item : ∀ a b text, together a b → Concur (Beside together) (one a text) (two b text))
    (read other : Nat) (first : Bool) {a : α} {b : β} (text : List Char) (start : together a b) :
    Concur (Beside together) (items one read first a text) (items two other first b text) := by
  induction read generalizing other first a b text with
  | zero => exact Concur.error_left _ _
  | succ read ih =>
    cases other with
    | zero => exact Concur.error_right _ _
    | succ other =>
      unfold items
      refine Concur.bind_same ?_
      rintro (_ | text)
      · exact Concur.pure_pure.mpr ⟨rfl, start⟩
      · refine Concur.bind (item a b text start) ?_
        rintro ⟨gathered, rest⟩ ⟨also, left⟩ ⟨same, gone⟩
        cases same
        exact ih other false rest gone

/-- And so do two ways of reading an object that do so at each member. -/
theorem members_concur {one : String → α → Reader α} {two : String → β → Reader β}
    (member : ∀ key a b text, together a b →
      Concur (Beside together) (one key a text) (two key b text))
    (read other : Nat) (first : Bool) {a : α} {b : β} (text : List Char) (start : together a b) :
    Concur (Beside together) (members one read first a text) (members two other first b text) := by
  induction read generalizing other first a b text with
  | zero => exact Concur.error_left _ _
  | succ read ih =>
    cases other with
    | zero => exact Concur.error_right _ _
    | succ other =>
      unfold members
      refine Concur.bind_same ?_
      rintro (_ | text)
      · exact Concur.pure_pure.mpr ⟨rfl, start⟩
      · refine Concur.bind_same ?_
        rintro ⟨key, rest⟩
        refine Concur.bind (member key a b rest start) ?_
        rintro ⟨gathered, rest⟩ ⟨also, left⟩ ⟨same, gone⟩
        cases same
        exact ih other false rest gone

/-- What each member keeps, the whole object keeps. -/
theorem members_keep (holds : α → Prop) {member : String → α → Reader α}
    (kept : ∀ key gathered text result rest, holds gathered →
      member key gathered text = .ok (result, rest) → holds result)
    {fuel : Nat} {first : Bool} {gathered result : α} {text rest : List Char}
    (start : holds gathered)
    (read : members member fuel first gathered text = .ok (result, rest)) : holds result := by
  have alike (key : String) (one other : α) (text : List Char) (same : one = other ∧ holds one) :
      Concur (Beside fun one other => one = other ∧ holds one) (member key one text)
        (member key other text) := by
    obtain ⟨rfl, held⟩ := same
    rintro ⟨after, behind⟩ _ found again
    obtain rfl := Except.ok.inj (found.symm.trans again)
    exact ⟨rfl, rfl, kept key one text after behind held found⟩
  exact (members_concur alike fuel fuel first text ⟨rfl, start⟩ _ _ read read).2.2

end

theorem skipMembers_concurs {member : String → α → Reader α}
    {skip : List Char → Except Fault (List Char)}
    (passed : ∀ key gathered text,
      Concur Beyond (member key gathered text) (do skip (← colon text)))
    (read other : Nat) (first : Bool) (gathered : α) (text : List Char) :
    Concur Beyond (members member read first gathered text)
      (skipMembers skip other first text) := by
  induction read generalizing other first gathered text with
  | zero => exact Concur.error_left _ _
  | succ read ih =>
    cases other with
    | zero => exact Concur.error_right _ _
    | succ other =>
      unfold members skipMembers
      refine Concur.bind_same ?_
      rintro (_ | text)
      · exact Concur.pure_pure.mpr rfl
      · refine Concur.bind (beyond_map (skipString_concurs _ _ text) String.ofList) ?_
        rintro ⟨key, behind⟩ left rfl
        dsimp only
        rw [← bind_assoc]
        refine Concur.bind (passed key gathered left) ?_
        rintro ⟨gathered, rest⟩ left rfl
        exact ih other false gathered left

theorem item_concurs {depth : Nat} {skip : List Char → Except Fault (List Char)}
    (passed : ∀ text, Concur Beyond (value depth text) (skip text)) (found : List Value)
    (text : List Char) :
    Concur (Beside fun _ _ => True)
      (do
        let (item, rest) ← value depth text
        return (item :: found, rest))
      (do return ((), ← skip text)) := by
  refine Concur.bind (passed text) ?_
  rintro ⟨item, rest⟩ left rfl
  exact Concur.pure_pure.mpr ⟨rfl, trivial⟩

/-- Passing over a value leaves what reading it leaves, whatever the depth that may be read. -/
theorem skip_concurs (fuel depth : Nat) (text : List Char) :
    Concur Beyond (value depth text) (skip fuel text) := by
  -- Reading is bounded by depth and skipping by fuel; each part costs both of them one.
  induction fuel generalizing depth text with
  | zero => exact Concur.error_right _ _
  | succ fuel ih =>
    unfold skip
    cases blanks : skipBlanks text with
    | nil => exact Concur.error_right _ _
    | cons c rest =>
      cases depth with
      | zero =>
        simp only [value, blanks]
        split
        · exact Concur.error_left _ _
        · rename_i bracket
          rw [not_or] at bracket
          rw [if_neg bracket.1, if_neg bracket.2]
          exact skipScalar_concurs (c :: rest)
      | succ depth =>
        simp only [value, blanks]
        split
        · refine Concur.bind (items_concur (fun found _ text _ => item_concurs (ih depth) found text)
            _ _ true rest trivial) ?_
          rintro ⟨found, rest⟩ ⟨_, left⟩ ⟨rfl, _⟩
          exact Concur.pure_pure.mpr rfl
        split
        · refine beyond_map (skipMembers_concurs (fun key found text => ?_) _ _ true [] rest)
            Value.object
          refine Concur.bind_same fun text => ?_
          exact beyond_map (ih depth text) (insertSorted key · found)
        · exact skipScalar_concurs (c :: rest)

end Json
end Rendezvous

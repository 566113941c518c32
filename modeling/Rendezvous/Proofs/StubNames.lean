import Rendezvous.Matcher

/-! Keys of stubs. Matchers are stored under their names and patterns as they were written, in one
space of texts. Names differ from each other, and so do patterns; but each name can also be written
as a pattern, so that a pattern and a matcher share a key just if the pattern is written as the name
of the matcher. -/
namespace Rendezvous

theorem Matcher.text_inj {matcher other : Matcher} :
    matcher.text = other.text ↔ matcher = other := by
  cases matcher <;> cases other <;> decide

/-- What a pattern was read as is no more than its text says. -/
theorem Pattern.text_inj {pattern other : Pattern} :
    pattern.text = other.text ↔ pattern = other := by
  constructor
  · intro same
    obtain ⟨text, expr, compiled⟩ := pattern
    obtain ⟨otherText, otherExpr, otherCompiled⟩ := other
    obtain rfl : text = otherText := same
    obtain rfl := Except.ok.inj (compiled.symm.trans otherCompiled)
    rfl
  · exact congrArg Pattern.text

/-- A pattern keeps the text that it was read from. -/
theorem Pattern.text_ofText {text : String} {pattern : Pattern}
    (read : Pattern.ofText text = .ok pattern) : pattern.text = text := by
  unfold Pattern.ofText at read
  split at read
  · obtain rfl := Except.ok.inj read
    rfl
  · cases read

theorem Pattern.ofText_of_compile {text : String} {expr : Pattern.Expr}
    (compiled : Pattern.Expr.compile text = .ok expr) :
    Pattern.ofText text = .ok ⟨text, expr, compiled⟩ := by
  unfold Pattern.ofText
  split
  · rename_i other otherwise
    obtain rfl := Except.ok.inj (compiled.symm.trans otherwise)
    rfl
  · rename_i fault refused
    rw [compiled] at refused
    cases refused

/-- No sign in the name of a matcher has a meaning of its own in patterns. -/
theorem Matcher.exists_pattern (matcher : Matcher) :
    ∃ pattern, Pattern.ofText matcher.text = .ok pattern := by
  have compiled : ∃ expr, Pattern.Expr.compile matcher.text = .ok expr := by
    cases matcher <;> exact ⟨_, rfl⟩
  obtain ⟨expr, compiled⟩ := compiled
  exact ⟨_, Pattern.ofText_of_compile compiled⟩

/-- A pattern is written as the name of a matcher, and the two stubs are registered with them. -/
inductive StubKey.Homonyms : StubKey → StubKey → Prop where
  | named {matcher : Matcher} {pattern : Pattern} (same : pattern.text = matcher.text) :
      Homonyms (.ofMatcher matcher) (.ofPattern pattern)
  | naming {matcher : Matcher} {pattern : Pattern} (same : pattern.text = matcher.text) :
      Homonyms (.ofPattern pattern) (.ofMatcher matcher)

theorem StubKey.text_eq_iff {first second : StubKey} :
    first.text = second.text ↔ first = second ∨ Homonyms first second := by
  constructor
  · intro same
    cases first with
    | ofMatcher matcher =>
      cases second with
      | ofMatcher other => exact .inl (congrArg _ (Matcher.text_inj.mp same))
      | ofPattern pattern => exact .inr (.named same.symm)
    | ofPattern pattern =>
      cases second with
      | ofMatcher matcher => exact .inr (.naming same)
      | ofPattern other => exact .inl (congrArg _ (Pattern.text_inj.mp same))
  · rintro (rfl | ⟨same⟩ | ⟨same⟩)
    · rfl
    · exact same.symm
    · exact same

/-- Without a pattern an argument is looked up under the name of its type. -/
theorem returnKey_unpatterned {argument : Argument} {stub : Option StubKey}
    (other : stub ≠ some (.ofMatcher .any)) :
    returnKey argument none stub = argument.matcher?.map .ofMatcher := by
  unfold returnKey
  split
  · exact absurd rfl other
  · rename_i given
    cases given
  · rename_i given
    cases given
  · rfl

/-- Two stubs share a key just if they are registered with one matcher, with patterns of one text,
or with a matcher and a pattern that is written as its name, which every name can be. So a stub with
a pattern stands where an argument is looked up without one just if the pattern is written as the
name of the argument's type, or of anything if it is looked up for a stub that takes anything. -/
theorem keys_shared_by_homonyms :
    (∀ first second : StubKey, first.text = second.text ↔
      (∃ matcher, first = .ofMatcher matcher ∧ second = .ofMatcher matcher) ∨
      (∃ pattern other : Pattern, pattern.text = other.text ∧
        first = .ofPattern pattern ∧ second = .ofPattern other) ∨
      StubKey.Homonyms first second) ∧
    (∀ matcher : Matcher, ∃ pattern, Pattern.ofText matcher.text = .ok pattern) ∧
    (∀ argument stub text pattern, Pattern.ofText text = .ok pattern →
      ((∃ matcher, returnKey argument none stub = some (.ofMatcher matcher) ∧
          (StubKey.ofPattern pattern).text = matcher.text) ↔
        match stub with
        | some (.ofMatcher .any) => text = Matcher.any.text
        | _ => argument.matcher?.map Matcher.text = some text)) := by
  refine ⟨fun first second => ?_, Matcher.exists_pattern, ?_⟩
  · rw [StubKey.text_eq_iff]
    constructor
    · rintro (rfl | homonyms)
      · cases first with
        | ofMatcher matcher => exact .inl ⟨matcher, rfl, rfl⟩
        | ofPattern pattern => exact .inr (.inl ⟨pattern, pattern, rfl, rfl, rfl⟩)
      · exact .inr (.inr homonyms)
    · rintro (⟨matcher, rfl, rfl⟩ | ⟨pattern, other, same, rfl, rfl⟩ | homonyms)
      · exact .inl rfl
      · exact .inl (congrArg _ (Pattern.text_inj.mp same))
      · exact .inr homonyms
  · intro argument stub text pattern read
    simp only [StubKey.text, Pattern.text_ofText read]
    split
    · simp [returnKey]
    · rename_i other
      rw [returnKey_unpatterned other]
      cases argument.matcher? with
      | none => simp
      | some matcher => simp [eq_comm]

/-- A pattern that only looks for the name of a matcher takes its key, under which a string is looked
up. -/
theorem named_pattern_collides :
    ∃ pattern, Pattern.ofText "<any String>" = .ok pattern ∧
      (StubKey.ofPattern pattern).text = (StubKey.ofMatcher .anyString).text ∧
      ∃ matcher, returnKey (.string "x") none none = some (.ofMatcher matcher) ∧
        matcher.text = (StubKey.ofPattern pattern).text := by
  obtain ⟨pattern, read⟩ := Matcher.exists_pattern .anyString
  have same := Pattern.text_ofText read
  exact ⟨pattern, read, same, .anyString, rfl, same.symm⟩

end Rendezvous

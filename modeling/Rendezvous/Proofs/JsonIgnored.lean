import Rendezvous.Proofs.JsonSpelling

/-! A value that nobody asked for is passed over, in whatever way it is spelled: words, numbers,
strings, and arrays and objects of any depth. -/
namespace Rendezvous.Json

/-- The spellings of any value, of whatever depth. -/
inductive Ignorable : List Char → Prop
  | word {letters : List Char} :
      letters ∈ [['n', 'u', 'l', 'l'], ['t', 'r', 'u', 'e'], ['f', 'a', 'l', 's', 'e']] →
      Ignorable letters
  | number {text : List Char} : Numeric text → Ignorable text
  | string {text : String} {spelling : List Char} : Quoted text spelling → Ignorable spelling
  | noItems (gap : Gap) : Ignorable ('[' :: gap.val ++ [']'])
  | array (first : Padded) (others : List Padded) :
      (∀ item ∈ first :: others, Ignorable item.part) → Ignorable (arrayText first others)
  | noMembers (gap : Gap) : Ignorable ('\x7b' :: gap.val ++ ['\x7d'])
  | object (first : Member) (others : List Member) :
      (∀ member ∈ first :: others, ∃ key, Quoted key member.key.part) →
      (∀ member ∈ first :: others, Ignorable member.value.part) →
      Ignorable (objectText first others)

theorem starts_quoted {text : String} {spelling : List Char} (spelled : Quoted text spelling) :
    Starts spelling := by
  obtain ⟨body, -, rfl⟩ := spelled
  exact ⟨'"', _, rfl, by decide, by decide⟩

theorem starts_numeric {text : List Char} (spelled : Numeric text) : Starts text := by
  obtain ⟨c, rest, rfl, first⟩ := spelled.head
  refine ⟨c, rest, rfl, isBlank_numeric first, ?_⟩
  rintro rfl
  rcases first with minus | digit
  · cases minus
  · cases digit

theorem starts_ignorable {text : List Char} (value : Ignorable text) : Starts text := by
  cases value with
  | word member =>
    simp only [List.mem_cons, List.not_mem_nil, or_false] at member
    rcases member with rfl | rfl | rfl <;> exact ⟨_, _, rfl, by decide, by decide⟩
  | number spelled => exact starts_numeric spelled
  | string spelled => exact starts_quoted spelled
  | noItems | array | noMembers | object => exact ⟨_, _, rfl, by decide, by decide⟩

/-! Arrays -/

theorem nextItem_first {part : List Char} (starts : Starts part) (gap : Gap) (rest : List Char) :
    nextItem true (gap.val ++ (part ++ rest)) = .ok (some (part ++ rest)) := by
  have blanks := skipBlanks_starts starts rest
  obtain ⟨c, more, rfl, -, other⟩ := starts
  rw [List.cons_append] at blanks ⊢
  simp [nextItem, blanks, other]

theorem nextItem_later {part : List Char} (starts : Starts part) (before gap : Gap)
    (rest : List Char) :
    nextItem false (before.val ++ ',' :: (gap.val ++ (part ++ rest))) =
      .ok (some (part ++ rest)) := by
  have blanks := skipBlanks_starts starts rest
  obtain ⟨c, more, rfl, -, other⟩ := starts
  rw [List.cons_append] at blanks ⊢
  simp [nextItem, skipBlanks_solid, isBlank, blanks, other]

theorem nextItem_end (first : Bool) (gap : Gap) (rest : List Char) :
    nextItem first (gap.val ++ ']' :: rest) = .ok none := by
  simp [nextItem, skipBlanks_solid, isBlank]

/-- The function passes over the text behind any blanks and whatever comes next. -/
def Passed (pass : List Char → Except Fault (List Char)) (text : List Char) : Prop :=
  ∀ (gap : Gap) rest, Ends rest → pass (gap.val ++ (text ++ rest)) = .ok rest

variable {pass : List Char → Except Fault (List Char)}

theorem length_le_flatMap {f : α → List Char} (others : List α) :
    others.length ≤ (others.flatMap fun part => ',' :: f part).length ∧
      ∀ part ∈ others, (f part).length < (others.flatMap fun part => ',' :: f part).length := by
  induction others with
  | nil => simp
  | cons part others ih =>
    simp only [List.flatMap_cons, List.length_cons, List.length_append, List.mem_cons,
      forall_eq_or_imp]
    refine ⟨by omega, by omega, fun other member => ?_⟩
    have own := ih.2 other member
    omega

theorem ends_others {f : α → List Char} (others : List α) {close : Char}
    (bracket : close = ']' ∨ close = '\x7d') (rest : List Char) :
    Ends (others.flatMap (fun part => ',' :: f part) ++ close :: rest) := by
  cases others with
  | nil => exact ends_cons (.inr (.inr bracket))
  | cons part others => exact ends_cons (.inr (.inl rfl))

theorem close_bracket (gap : Gap) {bracket : Char} (solid : isBlank bracket = false)
    (rest : List Char) : close (gap.val ++ bracket :: rest) = rest := by
  rw [close, skipBlanks_gap, skipBlanks_solid solid]
  rfl

/-- Further items after the first one, and the bracket. -/
theorem items_passed (others : List Padded) (starts : ∀ item ∈ others, Starts item.part)
    (passed : ∀ item ∈ others, Passed pass item.part) (gap : Gap) (rest : List Char) {fuel : Nat}
    (enough : others.length < fuel) :
    items (fun _ text => do return ((), ← pass text)) fuel false ()
      (gap.val ++ (others.flatMap (fun item => ',' :: item.text) ++ ']' :: rest)) =
        .ok ((), rest) := by
  induction others generalizing gap fuel with
  | nil =>
    obtain ⟨fuel, rfl⟩ : ∃ more, fuel = more + 1 := ⟨fuel - 1, by omega⟩
    have closed := close_bracket gap (show isBlank ']' = false by decide) rest
    simp only [List.flatMap_nil, List.nil_append, items, nextItem_end, bind, Except.bind, closed]
    rfl
  | cons item others ih =>
    obtain ⟨fuel, rfl⟩ : ∃ more, fuel = more + 1 := ⟨fuel - 1, by omega⟩
    rw [List.length_cons] at enough
    have found := nextItem_later (starts item List.mem_cons_self) gap item.before
    have behind := passed item List.mem_cons_self Gap.none _
      (ends_gap item.after (ends_others others (f := Padded.text) (.inl rfl) rest))
    have left := ih (fun other member => starts other (List.mem_cons_of_mem _ member))
      (fun other member => passed other (List.mem_cons_of_mem _ member)) item.after
      (show others.length < fuel by omega)
    simp only [List.flatMap_cons, Padded.text, List.append_assoc, List.cons_append, items,
      found, bind, Except.bind]
    simp only [Padded.text, Gap.val_none, List.nil_append] at behind left
    simp only [behind]
    exact left

/-- All items of an array, and the bracket. -/
theorem array_passed (first : Padded) (others : List Padded)
    (starts : ∀ item ∈ first :: others, Starts item.part)
    (passed : ∀ item ∈ first :: others, Passed pass item.part) (rest : List Char) {fuel : Nat}
    (enough : others.length < fuel) :
    items (fun _ text => do return ((), ← pass text)) (fuel + 1) true ()
      (first.text ++ (others.flatMap (fun item => ',' :: item.text) ++ ']' :: rest)) =
        .ok ((), rest) := by
  have found := nextItem_first (starts first List.mem_cons_self) first.before
  have behind := passed first List.mem_cons_self Gap.none _
    (ends_gap first.after (ends_others others (f := Padded.text) (.inl rfl) rest))
  have left := items_passed others (fun item member => starts item (List.mem_cons_of_mem _ member))
    (fun item member => passed item (List.mem_cons_of_mem _ member)) first.after rest enough
  simp only [Padded.text, Gap.val_none, List.nil_append, List.append_assoc] at behind left ⊢
  simp only [items, found, bind, Except.bind, behind]
  exact left

/-! Objects -/

theorem nextKey_first (gap : Gap) (rest : List Char) :
    nextKey true (gap.val ++ '"' :: rest) = .ok (some rest) := by
  simp [nextKey, skipBlanks_solid, isBlank, keyStart]

theorem nextKey_later (before gap : Gap) (rest : List Char) :
    nextKey false (before.val ++ ',' :: (gap.val ++ '"' :: rest)) = .ok (some rest) := by
  simp [nextKey, skipBlanks_solid, isBlank, keyStart]

theorem nextKey_end (first : Bool) (gap : Gap) (rest : List Char) :
    nextKey first (gap.val ++ '\x7d' :: rest) = .ok none := by
  simp [nextKey, skipBlanks_solid, isBlank]

theorem colon_gap (gap : Gap) (rest : List Char) : colon (gap.val ++ ':' :: rest) = .ok rest := by
  simp [colon, skipBlanks_solid, isBlank]

/-- What stands behind the closing quote of a member's key. -/
def Member.beyond (member : Member) (rest : List Char) : List Char :=
  member.key.after.val ++ ':' ::
    (member.value.before.val ++ (member.value.part ++ (member.value.after.val ++ rest)))

/-- What stands behind the opening quote of a member's key. -/
def Member.behind (member : Member) (body rest : List Char) : List Char :=
  body ++ '"' :: member.beyond rest

/-- The key of a member is found, be the member the first one or behind a comma. -/
theorem nextKey_member {member : Member} {key : String} (spelled : Quoted key member.key.part) :
    ∃ body, Body key.toList body ∧ ∀ rest,
      nextKey true (member.text ++ rest) = .ok (some (member.behind body rest)) ∧
      ∀ before : Gap, nextKey false (before.val ++ ',' :: (member.text ++ rest)) =
        .ok (some (member.behind body rest)) := by
  obtain ⟨body, meant, same⟩ := spelled
  refine ⟨body, meant, fun rest => ?_⟩
  have text : member.text ++ rest =
      member.key.before.val ++ '"' :: member.behind body rest := by
    simp [Member.text, Member.behind, Member.beyond, Padded.text, same]
  rw [text]
  exact ⟨nextKey_first _ _, fun before => nextKey_later before _ _⟩

theorem string_behind {member : Member} {key : String} {body : List Char}
    (meant : Body key.toList body) (rest : List Char) :
    string (member.behind body rest) = .ok (key, member.beyond rest) := string_body meant _

theorem skipString_behind {member : Member} {key : String} {body : List Char}
    (meant : Body key.toList body) (rest : List Char) :
    skipString ((member.behind body rest).length + 1) (member.behind body rest) =
      .ok (member.beyond rest) := by
  refine skipString_body meant (member.beyond rest) ?_
  rw [Member.behind, List.length_append]
  omega

theorem colon_beyond (member : Member) (rest : List Char) :
    colon (member.beyond rest) = .ok (member.value.before.val ++
      (member.value.part ++ (member.value.after.val ++ rest))) := colon_gap _ _

/-- Further members after the first one, and the bracket. -/
theorem members_passed (others : List Member)
    (keys : ∀ member ∈ others, ∃ key, Quoted key member.key.part)
    (passed : ∀ member ∈ others, Passed pass member.value.part) (gap : Gap) (rest : List Char)
    {fuel : Nat} (enough : others.length < fuel) :
    skipMembers pass fuel false
      (gap.val ++ (others.flatMap (fun member => ',' :: member.text) ++ '\x7d' :: rest)) =
        .ok rest := by
  induction others generalizing gap fuel with
  | nil =>
    obtain ⟨fuel, rfl⟩ : ∃ more, fuel = more + 1 := ⟨fuel - 1, by omega⟩
    have closed := close_bracket gap (show isBlank '\x7d' = false by decide) rest
    simp only [List.flatMap_nil, List.nil_append, skipMembers, nextKey_end, bind, Except.bind,
      closed]
    rfl
  | cons member others ih =>
    obtain ⟨fuel, rfl⟩ : ∃ more, fuel = more + 1 := ⟨fuel - 1, by omega⟩
    rw [List.length_cons] at enough
    obtain ⟨key, spelled⟩ := keys member List.mem_cons_self
    obtain ⟨body, meant, found⟩ := nextKey_member spelled
    have ends := ends_others others (f := Member.text) (.inr rfl) rest
    have value := passed member List.mem_cons_self member.value.before _
      (ends_gap member.value.after ends)
    have left := ih (fun other inside => keys other (List.mem_cons_of_mem _ inside))
      (fun other inside => passed other (List.mem_cons_of_mem _ inside)) member.value.after
      (show others.length < fuel by omega)
    rw [List.flatMap_cons, List.append_assoc, List.cons_append, skipMembers, (found _).2 gap]
    simp only [bind, Except.bind, skipString_behind meant, colon_beyond, value]
    exact left

/-- All members of an object, and the bracket. -/
theorem object_passed (first : Member) (others : List Member)
    (keys : ∀ member ∈ first :: others, ∃ key, Quoted key member.key.part)
    (passed : ∀ member ∈ first :: others, Passed pass member.value.part) (rest : List Char)
    {fuel : Nat} (enough : others.length < fuel) :
    skipMembers pass (fuel + 1) true
      (first.text ++ (others.flatMap (fun member => ',' :: member.text) ++ '\x7d' :: rest)) =
        .ok rest := by
  obtain ⟨key, spelled⟩ := keys first List.mem_cons_self
  obtain ⟨body, meant, found⟩ := nextKey_member spelled
  have value := passed first List.mem_cons_self first.value.before _
    (ends_gap first.value.after (ends_others others (f := Member.text) (.inr rfl) rest))
  have left := members_passed others
    (fun other inside => keys other (List.mem_cons_of_mem _ inside))
    (fun other inside => passed other (List.mem_cons_of_mem _ inside)) first.value.after rest enough
  simp only [skipMembers, (found _).1, bind, Except.bind, skipString_behind meant, colon_beyond,
    value]
  exact left

/-! Any value -/

theorem skip_scalar {c : Char} {more : List Char} {fuel : Nat} (gap : Gap)
    (solid : isBlank c = false) (array : c ≠ '[') (object : c ≠ '\x7b') :
    skip (fuel + 1) (gap.val ++ c :: more) = skipScalar (c :: more) := by
  simp [skip, skipBlanks_solid solid, array, object]

theorem skip_number {text rest : List Char} {fuel : Nat} (spelled : Numeric text) (ends : Ends rest)
    (gap : Gap) : skip (fuel + 1) (gap.val ++ (text ++ rest)) = .ok rest := by
  obtain ⟨c, more, same, first⟩ := spelled.head
  obtain ⟨sign, whole, fraction, exponent, signed, digits, point, power, parts⟩ := spelled
  obtain ⟨numeral, read, -⟩ := Numeral.read_append signed digits point power ends
  rw [← parts, same, List.cons_append] at read
  have other (letter : Char) (plain : letter ≠ '-') (undigited : isDigit letter = false) :
      c ≠ letter := by
    rintro rfl
    rcases first with minus | digit
    · exact plain minus
    · rw [undigited] at digit
      cases digit
  rw [same, List.cons_append, skip_scalar gap (isBlank_numeric first)
    (other '[' (by decide) (by decide)) (other '\x7b' (by decide) (by decide)), skipScalar,
    if_neg (other 'n' (by decide) (by decide)), if_neg (other 't' (by decide) (by decide)),
    if_neg (other 'f' (by decide) (by decide)), if_pos first, read]

/-- Any value is passed over, wherever it stands. -/
theorem passed_ignorable {text : List Char} (value : Ignorable text) {fuel : Nat}
    (enough : text.length ≤ fuel) : Passed (skip (fuel + 1)) text := by
  induction value generalizing fuel with
  | word letters =>
    intro gap rest ends
    simp only [List.mem_cons, List.not_mem_nil, or_false] at letters
    rcases letters with rfl | rfl | rfl
    all_goals
      rw [List.cons_append, skip_scalar gap (by decide) (by decide) (by decide)]
      rfl
  | number spelled =>
    intro gap rest ends
    exact skip_number spelled ends gap
  | string spelled =>
    obtain ⟨body, meant, rfl⟩ := spelled
    intro gap rest ends
    simp only [List.cons_append, List.append_assoc, List.nil_append]
    rw [skip_scalar gap (by decide) (by decide) (by decide)]
    refine skipString_body meant rest ?_
    rw [List.length_append]
    omega
  | noItems inner =>
    intro gap rest ends
    have closed := close_bracket inner (show isBlank ']' = false by decide) rest
    simp [skip, skipBlanks_solid, isBlank, items, nextItem_end, bind, Except.bind, pure,
      Except.pure, closed]
  | array first others values ih =>
    intro gap rest ends
    obtain ⟨count, sizes⟩ := length_le_flatMap (f := Padded.text) others
    simp only [arrayText, List.length_cons, List.length_append, List.length_nil] at enough
    obtain ⟨fuel, rfl⟩ : ∃ more, fuel = more + 1 := ⟨fuel - 1, by omega⟩
    have passed : ∀ item ∈ first :: others, Passed (skip (fuel + 1)) item.part := by
      intro item member
      have shorter : item.part.length ≤ item.text.length := by
        simp only [Padded.text, List.length_append]
        omega
      refine ih item member ?_
      rcases List.mem_cons.mp member with rfl | member
      · omega
      · have size := sizes item member
        omega
    have room : others.length < (first.text ++
        (others.flatMap (fun item => ',' :: item.text) ++ ']' :: rest)).length := by
      simp only [List.length_append, List.length_cons]
      omega
    have whole := array_passed first others
      (fun item member => starts_ignorable (values item member)) passed rest room
    rw [skip]
    simp only [skipBlanks_gap, arrayText, List.cons_append, List.append_assoc, List.nil_append,
      skipBlanks_solid (show isBlank '[' = false by decide), if_true, whole]
    rfl
  | noMembers inner =>
    intro gap rest ends
    have closed := close_bracket inner (show isBlank '\x7d' = false by decide) rest
    simp [skip, skipBlanks_solid, isBlank, skipMembers, nextKey_end, bind, Except.bind, pure,
      Except.pure, closed]
  | object first others keys values ih =>
    intro gap rest ends
    obtain ⟨count, sizes⟩ := length_le_flatMap (f := Member.text) others
    simp only [objectText, List.length_cons, List.length_append, List.length_nil] at enough
    obtain ⟨fuel, rfl⟩ : ∃ more, fuel = more + 1 := ⟨fuel - 1, by omega⟩
    have passed : ∀ member ∈ first :: others, Passed (skip (fuel + 1)) member.value.part := by
      intro member inside
      have shorter : member.value.part.length ≤ member.text.length := by
        simp only [Member.text, Padded.text, List.length_append, List.length_cons]
        omega
      refine ih member inside ?_
      rcases List.mem_cons.mp inside with rfl | inside
      · omega
      · have size := sizes member inside
        omega
    have room : others.length < (first.text ++
        (others.flatMap (fun member => ',' :: member.text) ++ '\x7d' :: rest)).length := by
      simp only [List.length_append, List.length_cons]
      omega
    have whole := object_passed first others keys passed rest room
    rw [skip]
    simp only [skipBlanks_gap, objectText, List.cons_append, List.append_assoc, List.nil_append,
      skipBlanks_solid (show isBlank '\x7b' = false by decide), whole]
    rfl

end Rendezvous.Json

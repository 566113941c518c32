import Mathlib.Data.List.Perm.Basic
import Rendezvous.Exchange
import Rendezvous.Proofs.JsonIgnored

/-! Contexts and command results survive being written and read. A record may be spelled as an
object with its fields in any order, among others that nobody asked for, or as an array of its
fields; the written text is one of these spellings, and all of them are read as the same value. -/
namespace Rendezvous

namespace Json

/-- The texts that stand for something. -/
abbrev Spelling := List Char → Prop

/-- Integers are spelled in one way only. -/
def Integer (value : Int) : Spelling := fun text => text = Number.integerText value

/-- The spellings of a record whose fields are spelled as given. -/
inductive RecordSpelling (fields : List (String × Spelling)) : Spelling
  | array (before after : Gap) (first : Padded) (others : List Padded) :
      List.Forall₂ (fun field item => field.2 item.part) fields (first :: others) →
      RecordSpelling fields (before.val ++ (arrayText first others ++ after.val))
  | object (before after : Gap) (first : Member) (others : List Member)
      (order : List (String × Spelling)) (unknown : List String) :
      order.Perm (fields ++ unknown.map (·, Ignorable)) →
      (∀ name ∈ unknown, name ∉ fields.map (·.1)) →
      List.Forall₂ (fun field member => Quoted field.1 member.key.part ∧ field.2 member.value.part)
        order (first :: others) →
      RecordSpelling fields (before.val ++ (objectText first others ++ after.val))

/-! Objects -/

/-- The first member of an object is read as if it stood behind a comma. -/
theorem members_first {read : String → α → Reader α} {gathered : α} {member : Member}
    {key : String} (spelled : Quoted key member.key.part) (rest : List Char) (fuel : Nat) :
    members read (fuel + 1) true gathered (member.text ++ rest) =
      members read (fuel + 1) false gathered (Gap.none.val ++ ',' :: (member.text ++ rest)) := by
  obtain ⟨body, -, found⟩ := nextKey_member spelled
  simp only [members, (found rest).1, (found rest).2 Gap.none]
  rfl

/-- One turn through the members: a comma, a key and what stands behind it. -/
theorem members_turn {read : String → α → Reader α} {gathered after : α} {member : Member}
    {key : String} {rest left : List Char} {fuel : Nat} (spelled : Quoted key member.key.part)
    (one : read key gathered (member.beyond rest) = .ok (after, left)) (gap : Gap) :
    members read (fuel + 1) false gathered (gap.val ++ ',' :: (member.text ++ rest)) =
      members read fuel false after left := by
  obtain ⟨body, meant, found⟩ := nextKey_member spelled
  simp only [members, (found _).2, bind, Except.bind, string_behind meant, one]

theorem members_end {read : String → α → Reader α} (gathered : α) (gap : Gap) (rest : List Char)
    (fuel : Nat) :
    members read (fuel + 1) false gathered (gap.val ++ '\x7d' :: rest) = .ok (gathered, rest) := by
  have closed := close_bracket gap (show isBlank '\x7d' = false by decide) rest
  simp only [members, nextKey_end, bind, Except.bind, closed]
  rfl

theorem recordMember_known {fields : List (Field ρ)} {depth : Nat} {field : Field ρ}
    {gathered after : ρ} {member : Member} {rest left : List Char}
    (known : fields.find? (fun other => other.name = field.name) = some field)
    (fresh : field.isSet gathered = false)
    (read : field.read depth gathered (member.value.before.val ++
      (member.value.part ++ (member.value.after.val ++ rest))) = .ok (after, left)) :
    recordMember fields depth field.name gathered (member.beyond rest) = .ok (after, left) := by
  simp [recordMember, known, fresh, colon_beyond, bind, Except.bind, read]

theorem recordMember_unknown {fields : List (Field ρ)} {depth : Nat} {name : String}
    {gathered : ρ} {member : Member} {rest : List Char}
    (unknown : name ∉ fields.map (·.name)) (value : Ignorable member.value.part)
    (ends : Ends rest) :
    recordMember fields depth name gathered (member.beyond rest) =
      .ok (gathered, member.value.after.val ++ rest) := by
  have none : fields.find? (fun field => field.name = name) = none := by
    simpa using unknown
  have passed : Passed (skip ((member.beyond rest).length + 1)) member.value.part := by
    refine passed_ignorable value ?_
    simp only [Member.beyond, List.length_append, List.length_cons]
    omega
  have behind := passed member.value.before _ (ends_gap member.value.after ends)
  simp [recordMember, none, colon_beyond, bind, Except.bind, behind]
  rfl

/-! Records of a text and a number -/

/-- Two fields that gather a text and a number. -/
structure Gathers (first second : Field ρ) (draft : Option String → Option ν → ρ) (text : String)
    (number : ν) (integer : Int) : Prop where
  apart : first.name ≠ second.name
  textSet : ∀ one two, first.isSet (draft one two) = one.isSome
  numberSet : ∀ one two, second.isSet (draft one two) = two.isSome
  textRead : ∀ depth two spelling, Quoted text spelling → ∀ (gap : Gap) rest,
    first.read depth (draft none two) (gap.val ++ (spelling ++ rest)) =
      .ok (draft (some text) two, rest)
  numberRead : ∀ depth one spelling, Integer integer spelling → ∀ (gap : Gap) rest, Ends rest →
    second.read depth (draft one none) (gap.val ++ (spelling ++ rest)) =
      .ok (draft one (some number), rest)

namespace Gathers

variable {first second : Field ρ} {draft : Option String → Option ν → ρ} {text : String}
  {number : ν} {integer : Int}

/-- The fields that are still missing. -/
def pending (first second : Field ρ) (text : String) (integer : Int)
    (one : Option String) (two : Option ν) : List (String × Spelling) :=
  (if one.isSome then [] else [(first.name, Quoted text)]) ++
    if two.isSome then [] else [(second.name, Integer integer)]

theorem mem_pending {one : Option String} {two : Option ν} {field : String × Spelling}
    (member : field ∈ pending first second text integer one two) :
    one = none ∧ field = (first.name, Quoted text) ∨
      two = none ∧ field = (second.name, Integer integer) := by
  cases one <;> cases two <;> simp_all [pending]

/-- Once the text is there, what was missing is the text and what is missing still. -/
theorem pending_text (two : Option ν) (unknown : List (String × Spelling)) :
    (pending first second text integer none two ++ unknown).Perm
      ((first.name, Quoted text) ::
        (pending first second text integer (some text) two ++ unknown)) := by
  simp [pending]

theorem pending_number (one : Option String) (found : ν) (unknown : List (String × Spelling)) :
    (pending first second text integer one (none : Option ν) ++ unknown).Perm
      ((second.name, Integer integer) ::
        (pending first second text integer one (some found) ++ unknown)) := by
  simp only [pending, Option.isSome_none, Option.isSome_some, if_true, List.append_nil,
    List.append_assoc]
  exact List.perm_middle

theorem textMember (gathers : Gathers first second draft text number integer) (depth : Nat)
    (two : Option ν) {member : Member} (value : Quoted text member.value.part) (rest : List Char) :
    recordMember [first, second] depth first.name (draft none two) (member.beyond rest) =
      .ok (draft (some text) two, member.value.after.val ++ rest) :=
  recordMember_known (by simp) (gathers.textSet _ _)
    (gathers.textRead depth two _ value member.value.before _)

theorem numberMember (gathers : Gathers first second draft text number integer) (depth : Nat)
    (one : Option String) {member : Member} (value : Integer integer member.value.part)
    {rest : List Char} (ends : Ends rest) :
    recordMember [first, second] depth second.name (draft one none) (member.beyond rest) =
      .ok (draft one (some number), member.value.after.val ++ rest) :=
  recordMember_known (by simp [gathers.apart]) (gathers.numberSet _ _)
    (gathers.numberRead depth one _ value member.value.before _ (ends_gap _ ends))

/-- The members are read in any order, those that are not known being passed over. -/
theorem members_read (gathers : Gathers first second draft text number integer) (depth : Nat)
    {one : Option String} {two : Option ν} (textual : one = none ∨ one = some text)
    (numeric : two = none ∨ two = some number) {order : List (String × Spelling)}
    {unknown : List String} {others : List Member}
    (whole : order.Perm (pending first second text integer one two ++ unknown.map (·, Ignorable)))
    (strange : ∀ name ∈ unknown, name ∉ [first, second].map (·.name))
    (spellings : List.Forall₂
      (fun field member => Quoted field.1 member.key.part ∧ field.2 member.value.part) order others)
    (gap : Gap) (rest : List Char) {fuel : Nat} (enough : others.length < fuel) :
    members (recordMember [first, second] depth) fuel false (draft one two)
      (gap.val ++ (others.flatMap (fun member => ',' :: member.text) ++ '\x7d' :: rest)) =
        .ok (draft (some text) (some number), rest) := by
  -- What is still to come is what is pending and what is unknown; each member takes one of these.
  induction spellings generalizing one two unknown gap fuel with
  | nil =>
    obtain ⟨fuel, rfl⟩ : ∃ more, fuel = more + 1 := ⟨fuel - 1, by omega⟩
    have none := List.append_eq_nil_iff.mp whole.nil_eq.symm
    obtain rfl : one = some text := by
      rcases textual with rfl | rfl
      · simp [pending] at none
      · rfl
    obtain rfl : two = some number := by
      rcases numeric with rfl | rfl
      · simp [pending] at none
      · rfl
    rw [List.flatMap_nil, List.nil_append]
    exact members_end _ gap rest fuel
  | @cons field member order others spelling spellings ih =>
    obtain ⟨fuel, rfl⟩ : ∃ more, fuel = more + 1 := ⟨fuel - 1, by omega⟩
    obtain ⟨key, value⟩ := spelling
    rw [List.length_cons] at enough
    have ends := ends_others others (f := Member.text) (.inr rfl) rest
    rw [List.flatMap_cons, List.append_assoc, List.cons_append]
    rcases List.mem_append.mp (whole.mem_iff.mp List.mem_cons_self) with missing | ignored
    · rcases mem_pending missing with ⟨rfl, rfl⟩ | ⟨rfl, rfl⟩
      · have fewer := (whole.trans (pending_text two _)).cons_inv
        refine (members_turn key (gathers.textMember depth two value _) gap).trans ?_
        exact ih (.inr rfl) numeric fewer strange member.value.after (by omega)
      · have fewer := (whole.trans (pending_number one number _)).cons_inv
        refine (members_turn key (gathers.numberMember depth one value ends) gap).trans ?_
        exact ih textual (.inr rfl) fewer strange member.value.after (by omega)
    · obtain ⟨name, inside, rfl⟩ := List.mem_map.mp ignored
      obtain ⟨before, behind, rfl⟩ := List.append_of_mem inside
      have fewer : order.Perm
          (pending first second text integer one two ++ (before ++ behind).map (·, Ignorable)) := by
        refine (whole.trans ?_).cons_inv
        rw [List.map_append, List.map_append, List.map_cons, ← List.append_assoc,
          ← List.append_assoc]
        exact List.perm_middle
      refine (members_turn key (recordMember_unknown (strange name inside) value ends) gap).trans
        ?_
      refine ih textual numeric fewer (fun other member => strange other ?_) member.value.after
        (by omega)
      rcases List.mem_append.mp member with early | late
      · exact List.mem_append_left _ early
      · exact List.mem_append_right _ (List.mem_cons_of_mem _ late)

theorem starts_integer {text : List Char} (spelled : Integer integer text) : Starts text := by
  obtain rfl : text = Number.integerText integer := spelled
  exact starts_numeric (numeric_integerText integer)

/-- The two items of an array are read in their order. -/
theorem items_read (gathers : Gathers first second draft text number integer) (depth : Nat)
    {item other : Padded} (textual : Quoted text item.part) (numeric : Integer integer other.part)
    (rest : List Char) :
    recordItems depth [first, second] true (draft none none)
      (item.text ++ ',' :: (other.text ++ ']' :: rest)) =
        .ok (draft (some text) (some number), rest) := by
  have bracket := skipBlanks_solid (show isBlank ']' = false by decide) rest
  have opened := nextItem_first (starts_quoted textual) item.before
    (item.after.val ++ ',' :: (other.text ++ ']' :: rest))
  have name := gathers.textRead depth none _ textual Gap.none
    (item.after.val ++ ',' :: (other.text ++ ']' :: rest))
  have further := nextItem_later (starts_integer numeric) item.after other.before
    (other.after.val ++ ']' :: rest)
  have figure := gathers.numberRead depth (some text) _ numeric Gap.none
    (other.after.val ++ ']' :: rest) (ends_gap other.after (ends_cons (.inr (.inr (.inl rfl)))))
  simp only [Padded.text, List.append_assoc, Gap.val_none, List.nil_append] at *
  simp only [recordItems, opened, name, further, figure, bind, Except.bind, skipBlanks_gap, bracket,
    if_true]

theorem finish_gap (found : α) (gap : Gap) : finish (found, gap.val) = .ok found := by
  have none : skipBlanks gap.val = [] := by
    simpa [skipBlanks] using skipBlanks_gap gap []
  simp [finish, none]

/-- Every spelling of the record is read as the record that its two fields complete. -/
theorem record_read (gathers : Gathers first second draft text number integer) (depth : Nat)
    {complete : ρ → Option α} {found : α}
    (completed : complete (draft (some text) (some number)) = some found) {spelling : List Char}
    (spelled :
      RecordSpelling [(first.name, Quoted text), (second.name, Integer integer)] spelling) :
    (do finish (← record [first, second] (draft none none) complete (depth + 1) spelling)) =
      .ok found := by
  cases spelled with
  | array before after item others parts =>
    obtain ⟨textual, rest⟩ := List.forall₂_cons.mp parts
    obtain ⟨other, more, numeric, none, rfl⟩ := List.forall₂_cons_left_iff.mp rest
    obtain rfl := List.forall₂_nil_left_iff.mp none
    have bracket := skipBlanks_solid (show isBlank '[' = false by decide)
    have gathered := gathers.items_read depth textual numeric after.val
    simp only [record, skipBlanks_gap, arrayText, List.flatMap_cons, List.flatMap_nil,
      List.cons_append, List.append_assoc, List.nil_append, List.append_nil, bracket, gathered,
      if_true, bind, Except.bind, record.finishRecord, completed]
    exact finish_gap found after
  | object before after member others order unknown whole strange parts =>
    have bracket := skipBlanks_solid (show isBlank '\x7b' = false by decide)
    obtain ⟨field, order, ⟨key, -⟩, -, rfl⟩ := List.forall₂_cons_right_iff.mp parts
    have room : (member :: others).length < (member.text ++
        (others.flatMap (fun member => ',' :: member.text) ++ '\x7d' :: after.val)).length + 1 := by
      have count := (length_le_flatMap (f := Member.text) others).1
      simp only [List.length_cons, List.length_append]
      omega
    have gathered := gathers.members_read depth (.inl rfl) (.inl rfl) whole strange parts Gap.none
      after.val room
    rw [List.flatMap_cons, List.append_assoc, List.cons_append, ← members_first key] at gathered
    simp only [record, skipBlanks_gap, objectText, List.cons_append, List.append_assoc,
      List.nil_append, bracket, gathered, if_true, bind, Except.bind, record.finishRecord,
      completed]
    exact finish_gap found after

end Gathers

/-- A record is written as an object with its fields in order and no blanks. -/
theorem recordText_spelled (one two text : String) (integer : Int) :
    RecordSpelling [(one, Quoted text), (two, Integer integer)]
      (recordText [(one, quoted text), (two, Number.integerText integer)]).toList := by
  let textual : Member := ⟨.close (quoted one), .close (quoted text)⟩
  let numeric : Member := ⟨.close (quoted two), .close (Number.integerText integer)⟩
  have written : (recordText [(one, quoted text), (two, Number.integerText integer)]).toList =
      Gap.none.val ++ (objectText textual [numeric] ++ Gap.none.val) := by
    simp [recordText, objectText, Member.text, Padded.text, Padded.close, textual, numeric]
  rw [written]
  have order : [(one, Quoted text), (two, Integer integer)].Perm
      ([(one, Quoted text), (two, Integer integer)] ++ [].map (·, Ignorable)) := .refl _
  refine .object Gap.none Gap.none textual [numeric] _ [] order (by simp) ?_
  exact .cons ⟨quoted_written one, quoted_written text⟩ (.cons ⟨quoted_written two, rfl⟩ .nil)

end Json

/-- What is written is read back, and so is what was read from any other text; reading and writing
it once more changes nothing. -/
structure RoundTrip (write : α → String) (read : String → Except Json.Fault α) : Prop where
  written : ∀ value, read (write value) = .ok value
  rewritten : ∀ text value, read text = .ok value →
    read (write value) = .ok value ∧ (read (write value)).map write = .ok (write value)

theorem RoundTrip.of_written {write : α → String} {read : String → Except Json.Fault α}
    (written : ∀ value, read (write value) = .ok value) : RoundTrip write read := by
  refine ⟨written, fun text value _ => ⟨written value, ?_⟩⟩
  rw [written value]
  rfl

namespace AppContext

open Json

theorem gathers (context : AppContext) : ∃ first second, fields = [first, second] ∧
    first.name = "application_name" ∧ second.name = "area" ∧
      Gathers first second Draft.mk context.applicationName context.area context.area.toNat := by
  refine ⟨_, _, rfl, rfl, rfl, by decide, fun _ _ => rfl, fun _ _ => rfl, ?_, ?_⟩
  · intro depth two spelling spelled gap rest
    simp only [readText_quoted spelled gap rest, bind, Except.bind]
    rfl
  · rintro depth one _ rfl gap rest ends
    have bound := context.area.toNat_lt
    have most : Nat.pow 2 32 = 4294967296 := rfl
    have read : readInteger 0 (Nat.pow 2 32 - 1 : Nat)
        (gap.val ++ (Number.integerText context.area.toNat ++ rest)) =
          .ok (context.area.toNat, rest) :=
      readInteger_written (by omega) (by omega) (by decide) gap ends
    simp only [read, bind, Except.bind]
    simp [pure, Except.pure]

/-- The spellings of a context. -/
def Spelled (context : AppContext) : Spelling :=
  RecordSpelling [("application_name", Quoted context.applicationName),
    ("area", Integer context.area.toNat)]

theorem ofJson_spelled {context : AppContext} {text : String}
    (spelled : context.Spelled text.toList) : ofJson text = .ok context := by
  obtain ⟨first, second, known, name, area, gathers⟩ := context.gathers
  have completed : Draft.complete ⟨some context.applicationName, some context.area⟩ =
      some context := rfl
  rw [Spelled, ← name, ← area] at spelled
  rw [ofJson, known]
  exact gathers.record_read 126 completed spelled

theorem toJson_spelled (context : AppContext) : context.Spelled context.toJson.toList :=
  recordText_spelled _ _ _ _

end AppContext

namespace CommandResult

open Json

theorem gathers (result : CommandResult) : ∃ first second, fields = [first, second] ∧
    first.name = "stdResult" ∧ second.name = "exitCode" ∧
      Gathers first second Draft.mk result.stdResult result.exitCode result.exitCode.toInt := by
  refine ⟨_, _, rfl, rfl, rfl, by decide, fun _ _ => rfl, fun _ _ => rfl, ?_, ?_⟩
  · intro depth two spelling spelled gap rest
    simp only [readText_quoted spelled gap rest, bind, Except.bind]
    rfl
  · rintro depth one _ rfl gap rest ends
    have low := result.exitCode.le_toInt
    have high := result.exitCode.toInt_lt
    have most : Nat.pow 2 31 = 2147483648 := rfl
    have read : readInteger (-Nat.pow 2 31) (Nat.pow 2 31 - 1)
        (gap.val ++ (Number.integerText result.exitCode.toInt ++ rest)) =
          .ok (result.exitCode.toInt, rest) :=
      readInteger_written (by omega) (by rw [most]; decide) (by rw [most]; decide) gap ends
    simp only [read, bind, Except.bind]
    simp [pure, Except.pure]

/-- The spellings of a result. -/
def Spelled (result : CommandResult) : Spelling :=
  RecordSpelling [("stdResult", Quoted result.stdResult),
    ("exitCode", Integer result.exitCode.toInt)]

theorem ofJson_spelled {result : CommandResult} {text : String}
    (spelled : result.Spelled text.toList) : ofJson text = .ok result := by
  obtain ⟨first, second, known, output, code, gathers⟩ := result.gathers
  have completed : Draft.complete ⟨some result.stdResult, some result.exitCode⟩ =
      some result := rfl
  rw [Spelled, ← output, ← code] at spelled
  rw [ofJson, known]
  exact gathers.record_read 126 completed spelled

theorem toJson_spelled (result : CommandResult) : result.Spelled result.toJson.toList :=
  recordText_spelled _ _ _ _

end CommandResult

/-- Contexts and results come back from what is written for them, whatever their texts and numbers.
Every other spelling is read as the same value, so it is written in the same way. -/
theorem records_round_trip :
    RoundTrip AppContext.toJson AppContext.ofJson ∧
    RoundTrip CommandResult.toJson CommandResult.ofJson ∧
    (∀ context : AppContext, ∀ text : String, context.Spelled text.toList →
      AppContext.ofJson text = .ok context) ∧
    (∀ result : CommandResult, ∀ text : String, result.Spelled text.toList →
      CommandResult.ofJson text = .ok result) :=
  ⟨.of_written fun context => AppContext.ofJson_spelled context.toJson_spelled,
    .of_written fun result => CommandResult.ofJson_spelled result.toJson_spelled,
    fun _ _ => AppContext.ofJson_spelled, fun _ _ => CommandResult.ofJson_spelled⟩

example : AppContext.ofJson
    "\x7b\"x\": [0, \x7b\x7d], \"area\": 7,\n\"application_name\": \"\\u0041\"\x7d" =
      .ok ⟨"A", 7⟩ := by
  rfl

end Rendezvous

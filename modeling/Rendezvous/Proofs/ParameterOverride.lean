import Mathlib.Data.List.TakeWhile
import Rendezvous.Local.Process
import Rendezvous.Proofs.Utf8Decoding

/-! A variable of the environment goes before the table. Its name is made of the parameter's, and no
upper case brings in an equals sign or a zero; the entry that starts with this name and an equals
sign is therefore the entry of this variable and of no other. What does not hold is that every
variable that is set goes before the table: its value has to be a text. -/
namespace Rendezvous

namespace Unicode.UpperCase

/-- A code point beyond the lowest 65, among which there are no letters. -/
def Letter (point : Nat) : Prop := 0x41 ≤ point ∧ point.isValidChar

instance (point : Nat) : Decidable (Letter point) := inferInstanceAs (Decidable (_ ∧ _))

theorem irregular_letters : ∀ entry ∈ irregular, ∀ point ∈ entry.2, Letter point := by
  decide +kernel

theorem runs_letters : ∀ run ∈ runs, Letter run.image ∧
    (run.image + (run.last - run.first) < 0xD800 ∨
      0xDFFF < run.image ∧ run.image + (run.last - run.first) < 0x110000) := by
  decide +kernel

/-- The images of a run lie between the first and the last one, and surrogates are not there. -/
theorem Run.image_letter {run : Run} {point : Nat} (known : run ∈ runs)
    (covered : run.covers point) : Letter (run.image + (point - run.first)) := by
  obtain ⟨⟨letter, valid⟩, inside⟩ := runs_letters run known
  simp only [covers, Bool.and_eq_true, decide_eq_true_eq] at covered
  refine ⟨by omega, ?_⟩
  show _ < _ ∨ _ ∧ _
  omega

theorem image?_letters {point : Nat} {image : List Nat} (found : image? point = some image) :
    ∀ point ∈ image, Letter point := by
  unfold image? at found
  cases listed : irregular.lookup point with
  | some other =>
    simp only [listed, Option.some.injEq] at found
    subst found
    obtain ⟨before, after, split, -⟩ := List.lookup_eq_some_iff.mp listed
    exact irregular_letters (point, other) (by simp [split])
  | none =>
    simp only [listed, Option.map_eq_some_iff] at found
    obtain ⟨run, covering, rfl⟩ := found
    have covered := List.find?_some covering
    simpa using run.image_letter (List.mem_of_find?_eq_some covering) covered

theorem toUpper_low : ∀ n < 0x80, (Char.ofNat n).toUpper.toNat < 0x41 →
    (Char.ofNat n).toUpper = Char.ofNat n := by
  decide

/-- The upper case of another character holds none of the lowest signs. -/
theorem mem_ofChar {c sign : Char} (low : sign.toNat < 0x41) (member : sign ∈ ofChar c) :
    sign = c := by
  unfold ofChar at member
  split at member
  · next ascii =>
    obtain rfl := List.mem_singleton.mp member
    have own := toUpper_low c.toNat ascii
    rw [Char.ofNat_toNat] at own
    exact own low
  · split at member
    · next image found =>
      obtain ⟨point, inside, rfl⟩ := List.mem_map.mp member
      obtain ⟨letter, valid⟩ := image?_letters found point inside
      rw [Text.Utf8.toNat_ofNat valid] at low
      omega
    · exact List.mem_singleton.mp member

theorem mem_ofString {text : String} {sign : Char} (low : sign.toNat < 0x41)
    (member : sign ∈ (ofString text).toList) : sign ∈ text.toList := by
  rw [ofString, String.toList_ofList, List.mem_flatMap] at member
  obtain ⟨c, inside, image⟩ := member
  rwa [mem_ofChar low image]

end Unicode.UpperCase

namespace Local

open Text.Utf8 (Bytes encode)

namespace Variables

/-- The names of variables hold no equals sign, as it ends them. -/
def Named (environ : Variables) : Prop := ∀ entry ∈ environ, '=' ∉ entry.1.toList

theorem equals_mem_encode {text : String} : 0x3D ∈ encode text ↔ '=' ∈ text.toList :=
  Text.Utf8.mem_encode_iff (c := '=') (by decide)

theorem readEntry_named {bytes : Bytes} {found : String × Bytes}
    (read : readEntry bytes = some found) : '=' ∉ found.1.toList := by
  unfold readEntry at read
  dsimp only at read
  split at read
  · next name decoded =>
    obtain rfl := Option.some.inj read
    rw [← equals_mem_encode, ← Text.Utf8.decode?_eq_some.mp decoded]
    intro inside
    simpa using List.mem_takeWhile_imp inside
  · cases read

/-- What is read from an environment block is named so. -/
theorem ofBlock_named (block : Bytes) : Named (ofBlock block) := by
  intro entry member
  obtain ⟨bytes, -, read⟩ := List.mem_filterMap.mp member
  exact readEntry_named read

theorem behind?_eq_some {start bytes rest : Bytes} :
    behind? start bytes = some rest ↔ bytes = start ++ rest := by
  unfold behind?
  by_cases begins : start <+: bytes
  · rw [if_pos (List.isPrefixOf_iff_prefix.mpr begins), Option.some.injEq]
    obtain ⟨tail, rfl⟩ := begins
    rw [List.drop_left, List.append_cancel_left_eq]
  · rw [if_neg fun found => begins (List.isPrefixOf_iff_prefix.mp found)]
    exact iff_of_false nofun fun same => begins ⟨rest, same.symm⟩

/-- The first equals sign ends the name. -/
theorem takeWhile_entry {name : String} {value : Bytes} (plain : '=' ∉ name.toList) :
    (entry name value).takeWhile (· ≠ 0x3D) = encode name := by
  have before : ∀ byte ∈ encode name, decide (byte ≠ 0x3D) = true := by
    intro byte inside
    refine decide_eq_true fun mark => plain ?_
    rwa [mark, equals_mem_encode] at inside
  rw [entry, List.takeWhile_append_of_pos before, List.takeWhile_cons_of_neg (by simp),
    List.append_nil]

theorem entry_inj {name other : String} {value rest : Bytes} (plain : '=' ∉ name.toList)
    (own : '=' ∉ other.toList) :
    entry other value = entry name rest ↔ other = name ∧ value = rest := by
  constructor
  · intro same
    have names := congrArg (List.takeWhile (· ≠ 0x3D)) same
    rw [takeWhile_entry own, takeWhile_entry plain] at names
    obtain rfl := Text.Utf8.encode_inj.mp names
    simpa [entry] using same
  · rintro ⟨rfl, rfl⟩
    rfl

theorem behind?_entry {name other : String} (plain : '=' ∉ name.toList) (own : '=' ∉ other.toList)
    (value : Bytes) :
    behind? (entry name []) (entry other value) = if other = name then some value else none := by
  have starts : ∀ rest, entry name [] ++ rest = entry name rest := fun rest => by simp [entry]
  split
  · next same =>
    rw [behind?_eq_some, starts, entry_inj plain own]
    exact ⟨same, rfl⟩
  · next differ =>
    refine Option.eq_none_iff_forall_ne_some.mpr fun rest found => differ ?_
    rw [behind?_eq_some, starts, entry_inj plain own] at found
    exact found.1

/-- Searching the environment is looking up the name. -/
theorem find?_eq_lookup {environ : Variables} (named : environ.Named) {name : String}
    (plain : '=' ∉ name.toList) (whole : '\x00' ∉ name.toList) :
    environ.find? name = environ.lookup name := by
  rw [find?, if_neg (by simpa using whole)]
  induction environ with
  | nil => rfl
  | cons first environ ih =>
    obtain ⟨other, value⟩ := first
    have own : '=' ∉ other.toList := named (other, value) List.mem_cons_self
    have others := ih fun entry member => named entry (List.mem_cons_of_mem _ member)
    rw [List.findSome?_cons, others, List.lookup_cons]
    dsimp only
    rw [behind?_entry plain own]
    by_cases same : other = name
    · simp [same]
    · simp [same, beq_false_of_ne (Ne.symm same)]

end Variables

namespace Parameters

/-- A variable's name holds no low sign but those of its parameter's name. -/
theorem not_mem_variableName {key : String} {sign : Char} (low : sign.toNat < 0x41)
    (absent : sign ∉ key.toList) : sign ∉ (variableName key).toList := by
  rw [variableName, String.toList_append, String.toList_map, List.mem_append, List.mem_map]
  rintro (inLead | ⟨c, inside, mapped⟩)
  · have letters : lead.toList.all (0x41 ≤ ·.toNat) := by decide +kernel
    have letter := List.all_eq_true.mp letters sign inLead
    simp only [decide_eq_true_eq] at letter
    omega
  · split at mapped
    · subst mapped
      exact absurd low (by decide)
    · subst mapped
      exact absent (Unicode.UpperCase.mem_ofString low inside)

theorem get_text {environ : Variables} {table : List (String × String)} {key default text : String}
    (read : environ.text? (variableName key) = some text) :
    get environ table key default = text := by
  rw [get, read]

theorem get_table {environ : Variables} {table : List (String × String)} {key default : String}
    (unread : environ.text? (variableName key) = none) :
    get environ table key default = (table.lookup key).getD default := by
  rw [get, unread]

/-- A variable is seen only if the system has it and its value is a text. -/
theorem text?_eq_some {environ : Variables} (named : environ.Named) {key : String}
    (plain : '=' ∉ key.toList) (whole : '\x00' ∉ key.toList) (text : String) :
    environ.text? (variableName key) = some text ↔
      environ.lookup (variableName key) = some (encode text) := by
  have found := Variables.find?_eq_lookup named
    (not_mem_variableName (by decide) plain) (not_mem_variableName (by decide) whole)
  rw [Variables.text?, found, Option.bind_eq_some_iff]
  constructor
  · rintro ⟨value, set, decoded⟩
    rwa [← Text.Utf8.decode?_eq_some.mp decoded]
  · exact fun set => ⟨_, set, Text.Utf8.decode?_eq_some.mpr rfl⟩

/-- Two tables that give different answers unless a variable is read. -/
theorem get_differs {environ : Variables} {key default : String}
    (unread : environ.text? (variableName key) = none) :
    get environ [(key, default ++ "_")] key default ≠ get environ [] key default := by
  rw [get_table unread, get_table unread]
  simp

/-- A variable whose value is a text goes before every table, and no other variable does: where it
is not set, and also where its value is no text, the table decides, or the default. -/
theorem get_overridden (environ : Variables) (key default : String) (named : environ.Named)
    (plain : '=' ∉ key.toList) (whole : '\x00' ∉ key.toList) :
    (∀ text, environ.lookup (variableName key) = some (encode text) →
      ∀ table, get environ table key default = text) ∧
    (environ.lookup (variableName key) = none →
      ∀ table, get environ table key default = (table.lookup key).getD default) ∧
    (∀ value, environ.lookup (variableName key) = some value →
      ((∀ table other, get environ table key default = get environ other key default) ↔
        ∃ text, value = encode text) ∧
      ((∀ text, value ≠ encode text) →
        ∀ table, get environ table key default = (table.lookup key).getD default)) := by
  have seen := text?_eq_some named plain whole
  have unread : (∀ text, environ.lookup (variableName key) ≠ some (encode text)) →
      environ.text? (variableName key) = none := fun unset =>
    Option.eq_none_iff_forall_ne_some.mpr fun text read => unset text ((seen text).mp read)
  refine ⟨?set, ?unset, fun value found => ⟨⟨?readable, ?text⟩, ?unreadable⟩⟩
  case set =>
    intro text set table
    exact get_text ((seen text).mpr set)
  case unset =>
    intro unset table
    exact get_table (unread fun text => by simp [unset])
  case readable =>
    intro same
    cases read : environ.text? (variableName key) with
    | none => exact absurd (same _ _) (get_differs read)
    | some text =>
      rw [seen, found] at read
      exact ⟨text, Option.some.inj read⟩
  case text =>
    rintro ⟨text, rfl⟩ table other
    have read := (seen text).mpr found
    rw [get_text read, get_text read]
  case unreadable =>
    intro unreadable table
    refine get_table (unread fun text set => unreadable text ?_)
    rw [found] at set
    exact Option.some.inj set

theorem oneSet_overridden :
    '=' ∉ "a".toList ∧ '\x00' ∉ "a".toList ∧
      (Variables.ofBlock (encode "TESTKIT_PARAM_A=1\x00")).Named ∧
      ∀ table, get (Variables.ofBlock (encode "TESTKIT_PARAM_A=1\x00")) table "a" "0" = "1" := by
  have named := Variables.ofBlock_named (encode "TESTKIT_PARAM_A=1\x00")
  have set : (Variables.ofBlock (encode "TESTKIT_PARAM_A=1\x00")).lookup (variableName "a") =
      some (encode "1") := by decide +kernel
  have overridden := get_overridden _ "a" "0" named (by decide) (by decide)
  exact ⟨by decide, by decide, named, overridden.1 "1" set⟩

/-- Where the value is a byte that begins no character, the table still decides. -/
theorem unreadable_passed_over :
    (Variables.ofBlock (encode "TESTKIT_PARAM_A=" ++ [0xFF, 0])).lookup (variableName "a") =
        some [0xFF] ∧
      get (Variables.ofBlock (encode "TESTKIT_PARAM_A=" ++ [0xFF, 0])) [("a", "1")] "a" "0" ≠
        get (Variables.ofBlock (encode "TESTKIT_PARAM_A=" ++ [0xFF, 0])) [] "a" "0" := by
  decide +kernel

end Parameters

end Local

end Rendezvous

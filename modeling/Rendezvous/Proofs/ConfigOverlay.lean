import Rendezvous.Config.Overlay

/-! A document is laid over the defaults field by field. Whether it is taken depends on its known
fields alone, each by itself, and on no chunk of length zero; a field that is missing is the
default's whether or not its section is there. The types are looked at first, in the whole
document. -/
namespace Rendezvous.Config

open Toml (Table Value)

/-- The members of a section. A section that is missing has none. -/
def members (document : Table) (heading : String) : Table :=
  match document.lookup heading with
  | some (.table _ members) => members
  | _ => []

def field? (document : Table) (heading name : String) : Option Value :=
  (members document heading).lookup name

/-- The types that fields have. -/
inductive Kind where
  | boolean
  | text
  | word32
  | word64

def Kind.Admits : Kind → Value → Prop
  | .boolean, value => ∃ given, value = .boolean given
  | .text, value => ∃ given, value = .string given
  | .word32, value => ∃ given : Nat, value = .integer given ∧ given < Nat.pow 2 32
  | .word64, value => ∃ given : Nat, value = .integer given ∧ given < Nat.pow 2 64

/-- The fields with names of their own. Parameters are named by the document. -/
inductive Known : (heading name : String) → Kind → Prop
  | requireTestMode : Known "bootstrap" "require_test_mode" .boolean
  | testModeParameter : Known "bootstrap" "test_mode_parameter" .text
  | uiTimeout : Known "bootstrap" "uitest_timeout_units" .word32
  | perfTimeout : Known "bootstrap" "perftest_timeout_units" .word32
  | name : Known "application" "name" .text
  | area : Known "application" "area" .word32
  | chunkLength : Known "coverage" "chunk_len" .word64

theorem forall_known {holds : String → String → Kind → Prop} :
    (∀ heading name kind, Known heading name kind → holds heading name kind) ↔
      (holds "bootstrap" "require_test_mode" .boolean ∧
        holds "bootstrap" "test_mode_parameter" .text ∧
        holds "bootstrap" "uitest_timeout_units" .word32 ∧
        holds "bootstrap" "perftest_timeout_units" .word32) ∧
      (holds "application" "name" .text ∧ holds "application" "area" .word32) ∧
      holds "coverage" "chunk_len" .word64 := by
  constructor
  · intro all
    exact ⟨⟨all _ _ _ .requireTestMode, all _ _ _ .testModeParameter, all _ _ _ .uiTimeout,
      all _ _ _ .perfTimeout⟩, ⟨all _ _ _ .name, all _ _ _ .area⟩, all _ _ _ .chunkLength⟩
  · rintro ⟨⟨require, parameter, ui, perf⟩, ⟨name, area⟩, chunk⟩ heading field kind known
    cases known <;> assumption

/-- The document that spells out a configuration. -/
def toDocument (config : Config) : Table := [
  ("bootstrap", .table .header [
    ("require_test_mode", .boolean config.bootstrap.requireTestMode),
    ("test_mode_parameter", .string config.bootstrap.testModeParameter),
    ("uitest_timeout_units", .integer config.bootstrap.uiTimeout.toNat),
    ("perftest_timeout_units", .integer config.bootstrap.perfTimeout.toNat)]),
  ("application", .table .header [
    ("name", .string config.application.name),
    ("area", .integer config.application.area.toNat)]),
  ("parameters", .table .header (config.parameters.map fun (name, value) => (name, .string value))),
  ("coverage", .table .header [("chunk_len", .integer config.coverage.chunkLength.toNat)])]

/-! Single values -/

/-- A reading of the values of one kind, and how what was read is written. -/
structure Reads (kind : Kind) (read : Value → Option α) (write : α → Value) : Prop where
  read_iff : ∀ value result, read value = some result ↔ write result = value
  admits_iff : ∀ value, kind.Admits value ↔ ∃ result, write result = value

theorem reads_boolean : Reads .boolean boolean? .boolean where
  read_iff value result := by cases value <;> simp [boolean?, eq_comm]
  admits_iff value := by simp [Kind.Admits, eq_comm]

theorem reads_text : Reads .text text? .string where
  read_iff value result := by cases value <;> simp [text?, eq_comm]
  admits_iff value := by simp [Kind.Admits, eq_comm]

theorem natural?_eq_some {last number : Nat} {value : Value} :
    natural? last value = some number ↔ value = .integer number ∧ number ≤ last := by
  cases value with
  | integer given =>
    simp only [natural?, Option.ite_none_right_eq_some, Option.some.injEq, Value.integer.injEq]
    omega
  | _ => simp [natural?]

/-- Words are read from the integers that they stand for. -/
theorem reads_word {bits : Nat} {word : Nat → ω} {number : ω → Nat} {kind : Kind}
    (kinds : ∀ value, kind.Admits value ↔
      ∃ given : Nat, value = .integer given ∧ given < Nat.pow 2 bits)
    (bounded : ∀ result, number result < Nat.pow 2 bits)
    (back : ∀ result, word (number result) = result)
    (there : ∀ given, given < Nat.pow 2 bits → number (word given) = given) :
    Reads kind (fun value => (natural? (Nat.pow 2 bits - 1) value).map word) fun result =>
      .integer (number result) where
  read_iff value result := by
    have last (given : Nat) : given ≤ Nat.pow 2 bits - 1 ↔ given < Nat.pow 2 bits :=
      Nat.le_sub_one_iff_lt (Nat.two_pow_pos bits)
    simp only [Option.map_eq_some_iff, natural?_eq_some, last]
    constructor
    · rintro ⟨given, ⟨rfl, fits⟩, rfl⟩
      rw [there given fits]
    · rintro rfl
      exact ⟨number result, ⟨rfl, bounded result⟩, back result⟩
  admits_iff value := by
    rw [kinds]
    constructor
    · rintro ⟨given, rfl, fits⟩
      exact ⟨word given, by rw [there given fits]⟩
    · rintro ⟨result, rfl⟩
      exact ⟨number result, rfl, bounded result⟩

theorem reads_word32 : Reads .word32 word32? fun word => .integer word.toNat :=
  reads_word (fun _ => Iff.rfl) UInt32.toNat_lt (fun _ => UInt32.ofNat_toNat)
    fun _ => UInt32.toNat_ofNat_of_lt'

theorem reads_word64 : Reads .word64 word64? fun word => .integer word.toNat :=
  reads_word (fun _ => Iff.rfl) UInt64.toNat_lt (fun _ => UInt64.ofNat_toNat)
    fun _ => UInt64.toNat_ofNat_of_lt'

namespace Reads

variable {kind : Kind} {read : Value → Option α} {write : α → Value}

theorem write_inj (reads : Reads kind read write) {one two : α} :
    write one = write two ↔ one = two := by
  rw [← reads.read_iff, (reads.read_iff (write two) two).mpr rfl, Option.some_inj, eq_comm]

theorem overlay_iff (reads : Reads kind read write) {default result : α} {found : Option Value} :
    overlay read default found = some result ↔
      some (write result) = found.or (some (write default)) := by
  cases found with
  | none => simp [overlay, reads.write_inj, eq_comm]
  | some value => simp [overlay, reads.read_iff]

theorem exists_written (reads : Reads kind read write) {default : α} {found : Option Value}
    (admits : ∀ value, found = some value → kind.Admits value) :
    ∃ result, some (write result) = found.or (some (write default)) := by
  cases found with
  | none => exact ⟨default, rfl⟩
  | some value =>
    obtain ⟨result, written⟩ := (reads.admits_iff value).mp (admits value rfl)
    exact ⟨result, congrArg some written⟩

end Reads

/-! Sections -/

/-- The sections that have fields of their own. -/
def records : List String := ["bootstrap", "application", "coverage"]

def Tabular (document : Table) (heading : String) : Prop :=
  ∀ value, document.lookup heading = some value → ∃ origin members, value = .table origin members

/-- A section may be read from its members, which are none where it is missing: then it is the
default as much as if it were there and empty. -/
theorem overlay_section {document : Table} {heading : String} (read : Value → Option α)
    {default : α}
    (alike : ∀ origin members, read (.table origin members) = read (.table .header members))
    (empty : read (.table .header []) = some default)
    (form : ∀ value, document.lookup heading = some value →
      (∃ origin members, value = .table origin members) ∨ read value = none) {result : α} :
    overlay read default (document.lookup heading) = some result ↔
      Tabular document heading ∧
        read (.table .header (members document heading)) = some result := by
  unfold Tabular members
  cases found : document.lookup heading with
  | none => simp [overlay, empty]
  | some value =>
    rcases form value found with ⟨origin, inner, rfl⟩ | unread
    · simp [overlay, alike origin]
    · simp only [overlay, unread, reduceCtorEq, false_iff, not_and]
      intro tabular
      obtain ⟨origin, inner, rfl⟩ := tabular value rfl
      simp [← alike origin, unread]

theorem bootstrap?_table {origin : Toml.Origin} {members : Table} {result : BootstrapConfig} :
    bootstrap? (.table origin members) = some result ↔
      some (.boolean result.requireTestMode) = (members.lookup "require_test_mode").or
        (some (.boolean ({} : BootstrapConfig).requireTestMode)) ∧
      some (.string result.testModeParameter) = (members.lookup "test_mode_parameter").or
        (some (.string ({} : BootstrapConfig).testModeParameter)) ∧
      some (.integer result.uiTimeout.toNat) = (members.lookup "uitest_timeout_units").or
        (some (.integer ({} : BootstrapConfig).uiTimeout.toNat)) ∧
      some (.integer result.perfTimeout.toNat) = (members.lookup "perftest_timeout_units").or
        (some (.integer ({} : BootstrapConfig).perfTimeout.toNat)) := by
  rw [← reads_boolean.overlay_iff, ← reads_text.overlay_iff, ← reads_word32.overlay_iff,
    ← reads_word32.overlay_iff]
  simp only [bootstrap?, Section.ofValue?, Section.find?, bind, Option.bind_some,
    Option.bind_eq_some_iff, pure, Option.some.injEq]
  constructor
  · rintro ⟨_, require, _, parameter, _, ui, _, perf, rfl⟩
    exact ⟨require, parameter, ui, perf⟩
  · rintro ⟨require, parameter, ui, perf⟩
    exact ⟨_, require, _, parameter, _, ui, _, perf, rfl⟩

theorem application?_table {origin : Toml.Origin} {members : Table} {result : ApplicationConfig} :
    application? (.table origin members) = some result ↔
      some (.string result.name) = (members.lookup "name").or
        (some (.string ({} : ApplicationConfig).name)) ∧
      some (.integer result.area.toNat) = (members.lookup "area").or
        (some (.integer ({} : ApplicationConfig).area.toNat)) := by
  rw [← reads_text.overlay_iff, ← reads_word32.overlay_iff]
  simp only [application?, Section.ofValue?, Section.find?, bind, Option.bind_some,
    Option.bind_eq_some_iff, pure, Option.some.injEq]
  constructor
  · rintro ⟨_, name, _, area, rfl⟩
    exact ⟨name, area⟩
  · rintro ⟨name, area⟩
    exact ⟨_, name, _, area, rfl⟩

theorem coverage?_table {origin : Toml.Origin} {members : Table} {result : CoverageConfig} :
    coverage? (.table origin members) = some result ↔
      some (.integer result.chunkLength.toNat) = (members.lookup "chunk_len").or
        (some (.integer ({} : CoverageConfig).chunkLength.toNat)) := by
  rw [← reads_word64.overlay_iff]
  simp only [coverage?, Section.ofValue?, Section.find?, bind, Option.bind_some,
    Option.bind_eq_some_iff, pure, Option.some.injEq]
  constructor
  · rintro ⟨_, chunk, rfl⟩
    exact chunk
  · exact fun chunk => ⟨_, chunk, rfl⟩

theorem parameters?_table {origin : Toml.Origin} {members : Table}
    {result : List (String × String)} :
    parameters? (.table origin members) = some result ↔
      (result.map fun (name, value) => (name, Value.string value)) = members := by
  simp only [parameters?]
  induction members generalizing result with
  | nil => cases result <;> simp
  | cons entry rest ih =>
    obtain ⟨key, value⟩ := entry
    simp only [List.mapM_cons, bind, pure, Option.bind_eq_some_iff, Option.some.injEq] at ih ⊢
    constructor
    · rintro ⟨_, ⟨text, read, rfl⟩, more, left, rfl⟩
      rw [List.map_cons, ih.mp left, (reads_text.read_iff value text).mp read]
    · intro written
      obtain ⟨⟨_, text⟩, more, rfl, first, later⟩ := List.map_eq_cons_iff.mp written
      obtain ⟨rfl, rfl⟩ := Prod.mk.inj first
      exact ⟨_, ⟨text, rfl, rfl⟩, more, ih.mpr later, rfl⟩

/-! Documents -/

/-- No section has one of the other forms that can be read as one: its fields in their order, or a
date, which has no fields. -/
structure TableForm (document : Table) : Prop where
  sections : ∀ heading ∈ records, ∀ value,
    document.lookup heading = some value →
      (∀ items, value ≠ .array items) ∧ (∀ rows, value ≠ .tables rows) ∧
        ∀ text, value ≠ .datetime text
  parameters : ∀ text, document.lookup "parameters" ≠ some (.datetime text)

theorem TableForm.table_or_unread {document : Table} (form : TableForm document) {heading : String}
    (known : heading ∈ records) {value : Value}
    (found : document.lookup heading = some value) :
    (∃ origin members, value = .table origin members) ∨ Section.ofValue? value = none := by
  obtain ⟨unordered, single, undated⟩ := form.sections heading known value found
  cases value with
  | table origin members => exact .inl ⟨origin, members, rfl⟩
  | array items => exact absurd rfl (unordered items)
  | tables rows => exact absurd rfl (single rows)
  | datetime text => exact absurd rfl (undated text)
  | _ => exact .inr rfl

theorem TableForm.parameters_or_unread {document : Table} (form : TableForm document)
    {value : Value} (found : document.lookup "parameters" = some value) :
    (∃ origin members, value = .table origin members) ∨ parameters? value = none := by
  cases value with
  | table origin members => exact .inl ⟨origin, members, rfl⟩
  | datetime text => exact absurd found (form.parameters text)
  | _ => exact .inr rfl

/-- Every section and every field that is there has its type. -/
structure WellTyped (document : Table) : Prop where
  sections : ∀ heading ∈ "parameters" :: records, Tabular document heading
  fields : ∀ heading name kind, Known heading name kind → ∀ value,
    field? document heading name = some value → kind.Admits value
  parameters : ∀ parameter ∈ members document "parameters", Kind.text.Admits parameter.2

/-- A configuration has what the document says, and the defaults where it says nothing. -/
structure Overlaid (document : Table) (config : Config) : Prop where
  fields : ∀ heading name kind, Known heading name kind →
    field? config.toDocument heading name =
      (field? document heading name).or (field? (toDocument {}) heading name)
  parameters : members config.toDocument "parameters" = members document "parameters"

theorem overlaid_iff {document : Table} {config : Config} :
    Overlaid document config ↔
      bootstrap? (.table .header (members document "bootstrap")) = some config.bootstrap ∧
      application? (.table .header (members document "application")) = some config.application ∧
      parameters? (.table .header (members document "parameters")) = some config.parameters ∧
      coverage? (.table .header (members document "coverage")) = some config.coverage := by
  rw [bootstrap?_table, application?_table, parameters?_table, coverage?_table]
  -- What is looked up in a written configuration comes out by computing.
  constructor
  · rintro ⟨fields, parameters⟩
    obtain ⟨bootstrap, application, coverage⟩ := forall_known.mp fields
    exact ⟨bootstrap, application, parameters, coverage⟩
  · rintro ⟨bootstrap, application, parameters, coverage⟩
    exact ⟨forall_known.mpr ⟨bootstrap, application, coverage⟩, parameters⟩

theorem ofDocument?_iff {document : Table} (form : TableForm document) {config : Config} :
    ofDocument? document = some config ↔
      (∀ heading ∈ "parameters" :: records, Tabular document heading) ∧
        Overlaid document config := by
  have bootstrap (result) : overlay bootstrap? {} (document.lookup "bootstrap") = some result ↔
      Tabular document "bootstrap" ∧
        bootstrap? (.table .header (members document "bootstrap")) = some result :=
    overlay_section bootstrap? (fun _ _ => rfl) rfl fun _ found =>
      (form.table_or_unread (by simp [records]) found).imp_right fun unread => by
        simp [bootstrap?, unread]
  have application (result) :
      overlay application? {} (document.lookup "application") = some result ↔ Tabular document "application" ∧
        application? (.table .header (members document "application")) = some result :=
    overlay_section application? (fun _ _ => rfl) rfl fun _ found =>
      (form.table_or_unread (by simp [records]) found).imp_right fun unread => by
        simp [application?, unread]
  have parameters (result) : overlay parameters? [] (document.lookup "parameters") = some result ↔
      Tabular document "parameters" ∧
        parameters? (.table .header (members document "parameters")) = some result :=
    overlay_section parameters? (fun _ _ => rfl) rfl fun _ found => form.parameters_or_unread found
  have coverage (result) : overlay coverage? {} (document.lookup "coverage") = some result ↔
      Tabular document "coverage" ∧
        coverage? (.table .header (members document "coverage")) = some result :=
    overlay_section coverage? (fun _ _ => rfl) rfl fun _ found =>
      (form.table_or_unread (by simp [records]) found).imp_right fun unread => by
        simp [coverage?, unread]
  simp only [ofDocument?, bind, pure, Option.bind_eq_some_iff, Option.some.injEq, bootstrap, application,
    parameters, coverage, records, List.forall_mem_cons, overlaid_iff]
  constructor
  · rintro ⟨_, ⟨one, b⟩, _, ⟨two, a⟩, _, ⟨three, p⟩, _, ⟨four, c⟩, rfl⟩
    exact ⟨⟨three, one, two, four, by simp⟩, b, a, p, c⟩
  · rintro ⟨⟨three, one, two, four, -⟩, b, a, p, c⟩
    exact ⟨_, ⟨one, b⟩, _, ⟨two, a⟩, _, ⟨three, p⟩, _, ⟨four, c⟩, rfl⟩

/-- Whatever a configuration holds has the type of its field. -/
theorem toDocument_admits (config : Config) {heading name : String} {kind : Kind}
    (known : Known heading name kind) {value : Value}
    (found : field? config.toDocument heading name = some value) : kind.Admits value := by
  cases known with
  | requireTestMode => exact (reads_boolean.admits_iff value).mpr ⟨_, Option.some.inj found⟩
  | testModeParameter => exact (reads_text.admits_iff value).mpr ⟨_, Option.some.inj found⟩
  | uiTimeout => exact (reads_word32.admits_iff value).mpr ⟨_, Option.some.inj found⟩
  | perfTimeout => exact (reads_word32.admits_iff value).mpr ⟨_, Option.some.inj found⟩
  | name => exact (reads_text.admits_iff value).mpr ⟨_, Option.some.inj found⟩
  | area => exact (reads_word32.admits_iff value).mpr ⟨_, Option.some.inj found⟩
  | chunkLength => exact (reads_word64.admits_iff value).mpr ⟨_, Option.some.inj found⟩

theorem exists_parameters {members : Table}
    (texts : ∀ parameter ∈ members, Kind.text.Admits parameter.2) :
    ∃ parameters : List (String × String),
      (parameters.map fun (name, value) => (name, Value.string value)) = members := by
  induction members with
  | nil => exact ⟨[], rfl⟩
  | cons first rest ih =>
    obtain ⟨parameters, written⟩ := ih fun parameter later => texts parameter (.tail _ later)
    obtain ⟨name, value⟩ := first
    obtain ⟨text, rfl⟩ : Kind.text.Admits value := texts _ (.head _)
    exact ⟨(name, text) :: parameters, by rw [List.map_cons, written]⟩

theorem WellTyped.overlaid {document : Table} (typed : WellTyped document) :
    ∃ config, Overlaid document config := by
  obtain ⟨⟨require, parameter, ui, perf⟩, ⟨name, area⟩, chunk⟩ := forall_known.mp typed.fields
  obtain ⟨_, require⟩ := reads_boolean.exists_written require
  obtain ⟨_, parameter⟩ := reads_text.exists_written parameter
  obtain ⟨_, ui⟩ := reads_word32.exists_written ui
  obtain ⟨_, perf⟩ := reads_word32.exists_written perf
  obtain ⟨_, name⟩ := reads_text.exists_written name
  obtain ⟨_, area⟩ := reads_word32.exists_written area
  obtain ⟨_, chunk⟩ := reads_word64.exists_written chunk
  obtain ⟨_, parameters⟩ := exists_parameters typed.parameters
  exact ⟨⟨⟨_, _, _, _⟩, ⟨_, _⟩, _, ⟨_⟩⟩,
    forall_known.mpr ⟨⟨require, parameter, ui, perf⟩, ⟨name, area⟩, chunk⟩, parameters⟩

theorem Overlaid.wellTyped {document : Table} {config : Config}
    (overlaid : Overlaid document config)
    (sections : ∀ heading ∈ "parameters" :: records, Tabular document heading) :
    WellTyped document where
  sections := sections
  fields heading name kind known value found :=
    config.toDocument_admits known (by rw [overlaid.fields _ _ _ known, found]; rfl)
  parameters parameter member := by
    rw [← overlaid.parameters] at member
    obtain ⟨given, -, rfl⟩ := List.mem_map.mp member
    exact ⟨given.2, rfl⟩

theorem wellTyped_iff {document : Table} (form : TableForm document) :
    WellTyped document ↔ ∃ config, ofDocument? document = some config := by
  simp only [ofDocument?_iff form]
  constructor
  · intro typed
    obtain ⟨config, overlaid⟩ := typed.overlaid
    exact ⟨config, typed.sections, overlaid⟩
  · rintro ⟨config, sections, overlaid⟩
    exact overlaid.wellTyped sections

/-- The default is no chunk of length zero. -/
theorem Overlaid.chunk_zero {document : Table} {config : Config}
    (overlaid : Overlaid document config) :
    config.coverage.chunkLength = 0 ↔
      field? document "coverage" "chunk_len" = some (.integer 0) := by
  have written : some (.integer config.coverage.chunkLength.toNat) =
      (field? document "coverage" "chunk_len").or (some (.integer 500)) :=
    overlaid.fields _ _ _ .chunkLength
  rw [← UInt64.toNat_inj]
  cases found : field? document "coverage" "chunk_len" with
  | none =>
    simp only [found, Option.none_or, Option.some.injEq, Value.integer.injEq] at written
    simp only [reduceCtorEq, iff_false]
    intro zero
    simp [zero] at written
  | some value =>
    simp only [found, Option.some_or, Option.some.injEq] at written
    simp [← written]

/-- A document is taken if all it says is of the right type and no chunk is empty, and then it is
laid over the defaults field by field. -/
theorem parse_overlays {text : String} {document : Table} (read : Table.ofText text = some document)
    (form : TableForm document) :
    ((∃ config, ofText text = .ok config) ↔
      WellTyped document ∧ field? document "coverage" "chunk_len" ≠ some (.integer 0)) ∧
    (∀ config, ofText text = .ok config → Overlaid document config) ∧
    (¬ WellTyped document → ∃ detail, ofText text = .error (.configParse detail)) ∧
    (WellTyped document → field? document "coverage" "chunk_len" = some (.integer 0) →
      ofText text = .error (.config "coverage.chunk_len must be greater than zero")) := by
  simp only [ofText, read, ofDocument]
  cases found : ofDocument? document with
  | none =>
    have untyped : ¬ WellTyped document := fun typed => by
      obtain ⟨config, found'⟩ := (wellTyped_iff form).mp typed
      simp [found] at found'
    simp [untyped]
  | some config =>
    have typed : WellTyped document := (wellTyped_iff form).mpr ⟨config, found⟩
    have overlaid : Overlaid document config := ((ofDocument?_iff form).mp found).2
    by_cases zero : config.coverage.chunkLength = 0
    · simp [zero, typed, zeroChunk, overlaid.chunk_zero.mp zero]
    · simp [zero, typed, overlaid, mt overlaid.chunk_zero.mpr zero]

/-- A document that says little, and some of it in vain. -/
def sparse : String := "[coverage]\nkind = true\n[application]\narea = 2\n[other]\n"

theorem sparse_overlaid :
    ofText sparse = .ok { application := { area := 2 } } ∧
      Overlaid [("coverage", .table .header [("kind", .boolean true)]),
        ("application", .table .header [("area", .integer 2)]), ("other", .table .header [])]
        { application := { area := 2 } } := by
  have made : ofText sparse = .ok { application := { area := 2 } } := rfl
  refine ⟨made, (parse_overlays rfl ⟨?_, fun _ => by simp [List.lookup_cons]⟩).2.1 _ made⟩
  intro heading known value found
  simp only [records, List.mem_cons, List.not_mem_nil, or_false] at known
  rcases known with rfl | rfl | rfl <;> cases found <;> simp

end Rendezvous.Config

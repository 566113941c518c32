import Rendezvous.Report.MockList
import Rendezvous.Proofs.JsonSkipping

/-! The mocks of a text are those of the entries that count, the last of each module, and none of
them is left out: they are all there or else the first module without a source is named. "First" is
by the order of the modules' names and not by that of the text, in which only entries of one module
must keep their places. -/
namespace Rendezvous

/-! Lists sorted by key -/

theorem lookup_entry (key other : String) (value : α) (rest : List (String × α)) :
    ((key, value) :: rest).lookup other =
      if other = key then some value else rest.lookup other := by
  by_cases same : other = key
  · simp [same]
  · simp [List.lookup_cons, same, beq_false_of_ne same]

namespace Json

theorem lookup_insertSorted (key other : String) (value : α) (found : List (String × α)) :
    (insertSorted key value found).lookup other =
      if other = key then some value else found.lookup other := by
  induction found with
  | nil => exact lookup_entry key other value []
  | cons entry rest ih =>
    obtain ⟨present, old⟩ := entry
    unfold insertSorted
    split
    · rw [lookup_entry]
    · split
      · rename_i same
        subst same
        by_cases same : other = key <;> simp [lookup_entry, same]
      · rename_i apart
        rw [lookup_entry, ih, lookup_entry]
        by_cases same : other = key
        · subst same
          simp [apart]
        · simp [same]

theorem mem_insertSorted {key : String} {value : α} {found : List (String × α)}
    {entry : String × α} (member : entry ∈ insertSorted key value found) :
    entry = (key, value) ∨ entry ∈ found := by
  induction found with
  | nil => exact .inl (List.mem_singleton.mp member)
  | cons first rest ih =>
    obtain ⟨present, old⟩ := first
    unfold insertSorted at member
    split at member
    · exact List.mem_cons.mp member
    · split at member
      · exact (List.mem_cons.mp member).imp_right (List.mem_cons_of_mem _)
      · rcases List.mem_cons.mp member with same | later
        · exact .inr (same ▸ List.mem_cons_self)
        · exact (ih later).imp_right (List.mem_cons_of_mem _)

theorem insertSorted_sorted (key : String) (value : α) {found : List (String × α)}
    (sorted : found.Pairwise (·.1 < ·.1)) :
    (insertSorted key value found).Pairwise (·.1 < ·.1) := by
  induction found with
  | nil => exact List.pairwise_singleton _ _
  | cons first rest ih =>
    obtain ⟨present, old⟩ := first
    obtain ⟨least, ordered⟩ := List.pairwise_cons.mp sorted
    unfold insertSorted
    split
    · rename_i before
      refine List.pairwise_cons.mpr ⟨fun entry member => ?_, sorted⟩
      rcases List.mem_cons.mp member with rfl | later
      · exact before
      · exact String.lt_trans before (least entry later)
    · rename_i behind
      split
      · rename_i same
        exact List.pairwise_cons.mpr ⟨fun entry member => same ▸ least entry member, ordered⟩
      · rename_i apart
        refine List.pairwise_cons.mpr ⟨fun entry member => ?_, ih ordered⟩
        rcases mem_insertSorted member with rfl | later
        · rcases Std.lt_trichotomy key present with before | same | above
          · exact absurd before behind
          · exact absurd same apart
          · exact above
        · exact least entry later

end Json

theorem lookup_mem {key : String} {value : α} {found : List (String × α)}
    (present : found.lookup key = some value) : (key, value) ∈ found := by
  obtain ⟨before, after, rfl, -⟩ := List.lookup_eq_some_iff.mp present
  simp

/-- Nothing else is found under the key of an entry of a sorted list. -/
theorem lookup_of_mem {key : String} {value : α} {found : List (String × α)}
    (sorted : found.Pairwise (·.1 < ·.1)) (member : (key, value) ∈ found) :
    found.lookup key = some value := by
  obtain ⟨before, after, rfl⟩ := List.append_of_mem member
  refine List.lookup_eq_some_iff.mpr ⟨before, after, rfl, fun entry earlier => ?_⟩
  have less := (List.pairwise_append.mp sorted).2.2 entry earlier (key, value) List.mem_cons_self
  exact bne_iff_ne.mpr fun same => String.lt_irrefl _ (same ▸ less)

/-- Sorted lists are the same if they answer alike under each key. -/
theorem sorted_ext {one two : List (String × α)} (first : one.Pairwise (·.1 < ·.1))
    (second : two.Pairwise (·.1 < ·.1)) (same : ∀ key, one.lookup key = two.lookup key) :
    one = two := by
  have distinct {list : List (String × α)} (sorted : list.Pairwise (·.1 < ·.1)) : list.Nodup := by
    refine List.Pairwise.imp ?_ sorted
    rintro entry _ less rfl
    exact String.lt_irrefl _ less
  have perm : one.Perm two := by
    refine (List.perm_ext_iff_of_nodup (distinct first) (distinct second)).mpr ?_
    rintro ⟨key, value⟩
    constructor
    · exact fun member => lookup_mem (same key ▸ lookup_of_mem first member)
    · exact fun member => lookup_mem ((same key).symm ▸ lookup_of_mem second member)
  refine perm.eq_of_pairwise (fun _ _ _ _ less more => ?_) first second
  exact absurd more (String.lt_asymm less)

namespace Report.MockList

/-- What the entries come to for a module: what the last one that names it says, if one does. -/
def counts (entries : List (String × Option Json.Value)) (module : String) :
    Option (Option Json.Value) := entries.reverse.lookup module

theorem latest_sorted (entries : List (String × Option Json.Value)) :
    (latest entries).Pairwise (·.1 < ·.1) := by
  have from_sorted {found : List (String × Option Json.Value)}
      (sorted : found.Pairwise (·.1 < ·.1)) :
      (entries.foldl (fun found entry => Json.insertSorted entry.1 entry.2 found) found).Pairwise
        (·.1 < ·.1) := by
    induction entries generalizing found with
    | nil => exact sorted
    | cons entry entries ih => exact ih (Json.insertSorted_sorted entry.1 entry.2 sorted)
  exact from_sorted List.Pairwise.nil

theorem latest_lookup (entries : List (String × Option Json.Value)) (module : String) :
    (latest entries).lookup module = counts entries module := by
  have on_top (found : List (String × Option Json.Value)) :
      (entries.foldl (fun found entry => Json.insertSorted entry.1 entry.2 found) found).lookup
        module = (counts entries module).or (found.lookup module) := by
    unfold counts
    induction entries generalizing found with
    | nil => rfl
    | cons entry entries ih =>
      rw [List.foldl_cons, ih, Json.lookup_insertSorted, List.reverse_cons, List.lookup_append,
        lookup_entry, Option.or_assoc]
      split <;> rfl
  exact (on_top []).trans Option.or_none

/-! Sources of entries that are sorted already -/

/-- If every entry has a source, each module is given what shows its own. -/
theorem sources_complete {entries : List (String × Option Json.Value)}
    (complete : ∀ entry ∈ entries, entry.2 ≠ none) :
    ∃ mocks, sources entries = .ok mocks ∧ mocks.map (·.1) = entries.map (·.1) ∧
      ∀ module, mocks.lookup module =
        (entries.lookup module).bind fun source => source.map sourceText := by
  induction entries with
  | nil => exact ⟨[], rfl, rfl, fun _ => rfl⟩
  | cons entry rest ih =>
    obtain ⟨present, _ | source⟩ := entry
    · exact absurd rfl (complete _ List.mem_cons_self)
    · obtain ⟨mocks, made, keys, shown⟩ :=
        ih fun entry later => complete entry (List.mem_cons_of_mem _ later)
      refine ⟨(present, sourceText source) :: mocks, ?_, by simp [keys], fun module => ?_⟩
      · rw [sources, made]
        rfl
      · rw [lookup_entry, lookup_entry, shown]
        split <;> rfl

/-- Else the first entry without a source is named. -/
theorem sources_incomplete {entries : List (String × Option Json.Value)}
    (sorted : entries.Pairwise (·.1 < ·.1)) (incomplete : ∃ module, (module, none) ∈ entries) :
    ∃ module, (module, none) ∈ entries ∧
      (∀ other, (other, none) ∈ entries → other = module ∨ module < other) ∧
      sources entries = .error (noSource module) := by
  induction entries with
  | nil => simp at incomplete
  | cons entry rest ih =>
    obtain ⟨least, ordered⟩ := List.pairwise_cons.mp sorted
    obtain ⟨present, _ | source⟩ := entry
    · refine ⟨present, List.mem_cons_self, fun other member => ?_, rfl⟩
      rcases List.mem_cons.mp member with same | later
      · exact .inl (Prod.mk.inj same).1
      · exact .inr (least _ later)
    · -- This one has a source, so the least that lacks one is the least of the rest.
      have behind {module : String} (member : (module, none) ∈ (present, some source) :: rest) :
          (module, none) ∈ rest := by simpa using member
      obtain ⟨_, member⟩ := incomplete
      obtain ⟨module, found, first, failed⟩ := ih ordered ⟨_, behind member⟩
      refine ⟨module, List.mem_cons_of_mem _ found, fun other member => ?_, ?_⟩
      · exact first other (behind member)
      · rw [sources, failed]
        rfl

/-! Null for a source -/

theorem readOptional_not_null {depth : Nat} {text rest : List Char} {source : Option Json.Value}
    (read : Json.readOptional depth text = .ok (source, rest)) : source ≠ some .null := by
  obtain ⟨⟨value, _⟩, -, read⟩ := bind_eq_ok.mp read
  rintro rfl
  cases value <;> cases read

theorem recordMember_not_null {depth : Nat} {key : String} {draft after : Draft}
    {text rest : List Char} (clean : draft.source ≠ some (some .null))
    (read : Json.recordMember fields depth key draft text = .ok (after, rest)) :
    after.source ≠ some (some .null) := by
  by_cases named : "source" = key
  · subst named
    simp only [Json.recordMember, fields, List.find?_cons, decide_true] at read
    split at read
    · cases read
    · obtain ⟨_, -, read⟩ := bind_eq_ok.mp read
      obtain ⟨⟨source, _⟩, optional, same⟩ := bind_eq_ok.mp read
      obtain ⟨rfl, -⟩ := Prod.mk.inj (Except.ok.inj same)
      exact fun null => readOptional_not_null optional (Option.some.inj null)
  · simp only [Json.recordMember, fields, List.find?_cons, named, decide_false,
      List.find?_nil] at read
    obtain ⟨_, -, read⟩ := bind_eq_ok.mp read
    obtain ⟨_, -, same⟩ := bind_eq_ok.mp read
    obtain ⟨rfl, -⟩ := Prod.mk.inj (Except.ok.inj same)
    exact clean

theorem recordItems_not_null {depth : Nat} {text rest : List Char} {after : Draft}
    (read : Json.recordItems depth fields true {} text = .ok (after, rest)) :
    after.source ≠ some (some .null) := by
  simp only [fields, Json.recordItems] at read
  obtain ⟨_ | text, -, read⟩ := bind_eq_ok.mp read
  · cases read
  · obtain ⟨⟨draft, behind⟩, first, read⟩ := bind_eq_ok.mp read
    obtain ⟨⟨source, _⟩, optional, same⟩ := bind_eq_ok.mp first
    obtain ⟨rfl, rfl⟩ := Prod.mk.inj (Except.ok.inj same)
    dsimp only at read
    split at read
    · cases read
    · split at read
      · obtain ⟨rfl, -⟩ := Prod.mk.inj (Except.ok.inj read)
        exact fun null => readOptional_not_null optional (Option.some.inj null)
      · cases read

theorem record_not_null {depth : Nat} {text rest : List Char} {source : Option Json.Value}
    (read : Json.record fields {} Draft.complete depth text = .ok (source, rest)) :
    source ≠ some .null := by
  have finished {draft : Draft} {behind : List Char} (clean : draft.source ≠ some (some .null))
      (read : Json.record.finishRecord Draft.complete draft behind = .ok (source, rest)) :
      source ≠ some .null := by
    obtain ⟨rfl, -⟩ := Prod.mk.inj (Except.ok.inj read)
    cases set : draft.source <;> simp_all
  unfold Json.record at read
  split at read
  · cases read
  · split at read <;> cases read
  · split at read
    · obtain ⟨⟨draft, behind⟩, gathered, read⟩ := bind_eq_ok.mp read
      exact finished (recordItems_not_null gathered) read
    · split at read
      · obtain ⟨⟨draft, behind⟩, gathered, read⟩ := bind_eq_ok.mp read
        have clean := Json.members_keep (fun draft : Draft => draft.source ≠ some (some .null))
          (fun _ _ _ _ _ => recordMember_not_null) (by simp) gathered
        exact finished clean read
      · cases read

/-- No entry has a source that is null: that is an entry without one. -/
theorem readEntries_not_null {text : String} {entries : List (String × Option Json.Value)}
    (read : readEntries text = .ok entries) (module : String) :
    counts entries module ≠ some (some .null) := by
  unfold readEntries at read
  split at read
  · cases read
  · split at read
    · obtain ⟨⟨found, rest⟩, gathered, read⟩ := bind_eq_ok.mp read
      have clean : ∀ entry ∈ found, entry.2 ≠ some .null := by
        refine Json.members_keep (fun found => ∀ entry ∈ found, entry.2 ≠ some .null)
          (fun key found text after left clean read => ?_) (by simp) gathered
        obtain ⟨_, -, read⟩ := bind_eq_ok.mp read
        obtain ⟨⟨source, _⟩, given, same⟩ := bind_eq_ok.mp read
        obtain ⟨rfl, -⟩ := Prod.mk.inj (Except.ok.inj same)
        exact List.forall_mem_cons.mpr ⟨record_not_null given, clean⟩
      simp only [Json.finish] at read
      split at read
      · obtain rfl := Except.ok.inj read
        rw [counts, List.reverse_reverse]
        exact fun null => clean _ (lookup_mem null) rfl
      · cases read
    · cases read

/-! What an entry gives, read as a value -/

/-- A source that is `null` is none. -/
def unlessNull : Json.Value → Option Json.Value
  | .null => none
  | source => some source

/-- The source of an entry: its field of that name, or the only item of an array. -/
def given : Json.Value → Option Json.Value
  | .object members => (members.lookup "source").bind unlessNull
  | .array [source] => unlessNull source
  | _ => none

theorem readOptional_concurs (depth : Nat) (text : List Char) :
    Concur (Json.Beside fun source value => source = unlessNull value)
      (Json.readOptional depth text) (Json.value depth text) := by
  intro a b optional plain
  obtain ⟨⟨value, rest⟩, found, optional⟩ := bind_eq_ok.mp optional
  obtain rfl : (value, rest) = b := Except.ok.inj (found.symm.trans plain)
  cases value <;> cases optional <;> exact ⟨rfl, rfl⟩

/-- What was read of an entry so far fits the members that were seen so far. -/
def Fits (draft : Draft) (found : List (String × Json.Value)) : Prop :=
  draft.source = (found.lookup "source").map unlessNull

theorem recordMember_concurs (depth : Nat) (key : String) (draft : Draft)
    (found : List (String × Json.Value)) (text : List Char) (fits : Fits draft found) :
    Concur (Json.Beside Fits) (Json.recordMember fields depth key draft text) (do
      let (item, rest) ← Json.value depth (← Json.colon text)
      return (Json.insertSorted key item found, rest)) := by
  by_cases named : "source" = key
  · subst named
    cases set : draft.source.isSome with
    | true =>
      simp only [Json.recordMember, fields, List.find?_cons, decide_true, set, if_true]
      exact Concur.error_left _ _
    | false =>
      simp only [Json.recordMember, fields, List.find?_cons, decide_true, set, Bool.false_eq_true,
        if_false]
      refine Concur.bind_same fun text => ?_
      refine Concur.bind (readOptional_concurs depth text) ?_
      rintro ⟨source, rest⟩ ⟨value, _⟩ ⟨rfl, rfl⟩
      exact Concur.pure_pure.mpr ⟨rfl, by simp [Fits, Json.lookup_insertSorted]⟩
  · simp only [Json.recordMember, fields, List.find?_cons, named, decide_false, List.find?_nil]
    refine Concur.bind_same fun behind => ?_
    refine Concur.bind (Json.skip_concurs (text.length + 1) depth behind).swap ?_
    rintro left ⟨value, rest⟩ rfl
    exact Concur.pure_pure.mpr ⟨rfl, by simpa [Fits, Json.lookup_insertSorted, named] using fits⟩

/-- An entry that is an array holds its source and nothing else. -/
theorem recordItems_concurs (depth fuel : Nat) (text : List Char) :
    Concur (Json.Beside fun draft found =>
        ∃ source, draft.source = some (unlessNull source) ∧ found = [source])
      (Json.recordItems depth fields true {} text)
      (Json.items (fun found text => do
        let (item, rest) ← Json.value depth text
        return (item :: found, rest)) fuel true [] text) := by
  cases fuel with
  | zero => exact Concur.error_right _ _
  | succ fuel =>
    simp only [fields, Json.recordItems, Json.items]
    refine Concur.bind_same ?_
    rintro (_ | text)
    · exact Concur.error_left _ _
    · simp only [bind_assoc, pure_bind]
      refine Concur.bind (readOptional_concurs depth text) ?_
      rintro ⟨_, _⟩ ⟨source, rest⟩ ⟨rfl, rfl⟩
      cases fuel with
      | zero => exact Concur.error_right _ _
      | succ fuel =>
        cases blanks : Json.skipBlanks rest with
        | nil => exact Concur.error_left _ _
        | cons c more =>
          by_cases closed : c = ']'
          · have ended : Json.nextItem false rest = .ok none := by
              simp [Json.nextItem, blanks, closed]
            have left : Json.close rest = more := by simp [Json.close, blanks]
            simp only [closed, if_true, Json.items, ended]
            exact Concur.ok_ok.mpr ⟨left, source, rfl, rfl⟩
          · simp [closed]

/-- An entry gives the same whether it is read as a record or as a value. -/
theorem record_concurs (depth : Nat) (text : List Char) :
    Concur (Json.Beside fun source value => source = given value)
      (Json.record fields {} Draft.complete depth text) (Json.value depth text) := by
  cases blanks : Json.skipBlanks text with
  | nil =>
    cases depth <;> simp only [Json.record, Json.value, blanks] <;> exact Concur.error_left _ _
  | cons c rest =>
    cases depth with
    | zero =>
      simp only [Json.record, blanks]
      split <;> exact Concur.error_left _ _
    | succ depth =>
      simp only [Json.record, Json.value, blanks]
      split
      · refine Concur.bind (recordItems_concurs depth (rest.length + 1) rest) ?_
        rintro ⟨draft, behind⟩ ⟨_, _⟩ ⟨rfl, source, read, rfl⟩
        exact Concur.ok_ok.mpr ⟨rfl, congrArg (·.getD none) read⟩
      split
      · refine Concur.bind (Json.members_concur (recordMember_concurs depth) _ _ true rest rfl) ?_
        rintro ⟨draft, behind⟩ ⟨found, _⟩ ⟨rfl, fits⟩
        refine Concur.ok_ok.mpr ⟨rfl, (congrArg (·.getD none) fits).trans ?_⟩
        simp only [given]
        cases found.lookup "source" <;> rfl
      · exact Concur.error_left _ _

/-- The entries found so far give for each module what the members seen so far have under it. -/
def Gives (found : List (String × Option Json.Value)) (members : List (String × Json.Value)) :
    Prop :=
  ∀ module, found.lookup module = (members.lookup module).map given

theorem entry_concurs (depth : Nat) (module : String) (found : List (String × Option Json.Value))
    (members : List (String × Json.Value)) (text : List Char) (gives : Gives found members) :
    Concur (Json.Beside Gives)
      (do
        let (source, rest) ← Json.record fields {} Draft.complete depth (← Json.colon text)
        return ((module, source) :: found, rest))
      (do
        let (item, rest) ← Json.value depth (← Json.colon text)
        return (Json.insertSorted module item members, rest)) := by
  refine Concur.bind_same fun text => ?_
  refine Concur.bind (record_concurs depth text) ?_
  rintro ⟨_, behind⟩ ⟨value, _⟩ ⟨rfl, rfl⟩
  refine Concur.pure_pure.mpr ⟨rfl, fun other => ?_⟩
  rw [lookup_entry, Json.lookup_insertSorted, gives]
  split <;> rfl

/-- Where a text of entries can be read as a value, that is an object, and what counts for a module
is what the value under it gives. -/
theorem readEntries_concurs (text : String) :
    Concur (fun entries value => ∃ members, value = .object members ∧
        ∀ module, counts entries module = (members.lookup module).map given)
      (readEntries text) (Json.Value.ofText text) := by
  have deep : Json.depthLimit = 126 + 1 := rfl
  unfold readEntries Json.Value.ofText
  rw [deep, Json.value]
  cases Json.skipBlanks text.toList with
  | nil => exact Concur.error_left _ _
  | cons c rest =>
    by_cases brace : c = '\x7b'
    · subst brace
      simp only [Char.reduceEq, if_false, if_true, bind_assoc]
      refine Concur.bind (Json.members_concur (entry_concurs 126) _ _ true rest fun _ => rfl) ?_
      rintro ⟨found, behind⟩ ⟨members, _⟩ ⟨rfl, gives⟩
      simp only [Json.finish, pure_bind]
      split
      · refine Concur.ok_ok.mpr ⟨members, rfl, fun module => ?_⟩
        rw [counts, List.reverse_reverse]
        exact gives module
      · exact Concur.error_left _ _
    · simp only [if_neg brace]
      exact Concur.error_left _ _

/-- Two lists with the same entries for each module, in the same order. -/
def Reordered (entries others : List (String × Option Json.Value)) : Prop :=
  ∀ module, entries.filter (·.1 = module) = others.filter (·.1 = module)

theorem lookup_filter (entries : List (String × α)) (key : String) :
    (entries.filter (·.1 = key)).lookup key = entries.lookup key := by
  induction entries with
  | nil => rfl
  | cons entry rest ih =>
    obtain ⟨present, value⟩ := entry
    by_cases same : present = key
    · simp [same]
    · simp [same, lookup_entry, Ne.symm same, ih]

theorem Reordered.counts {entries others : List (String × Option Json.Value)}
    (reordered : Reordered entries others) (module : String) :
    counts others module = counts entries module := by
  unfold MockList.counts
  rw [← lookup_filter others.reverse, ← lookup_filter entries.reverse, List.filter_reverse,
    List.filter_reverse, reordered module]

/-- Entries of modules that are all different may be put in any order. -/
theorem Reordered.of_perm {entries others : List (String × Option Json.Value)}
    (perm : entries.Perm others) (distinct : (entries.map (·.1)).Nodup) :
    Reordered entries others := by
  intro module
  have apart : entries.Pairwise (·.1 ≠ ·.1) := List.pairwise_map.mp distinct
  have alsoApart : others.Pairwise (·.1 ≠ ·.1) :=
    List.pairwise_map.mp ((perm.map Prod.fst).nodup_iff.mp distinct)
  refine (perm.filter _).eq_of_pairwise (fun one two first second other _ => ?_)
    (apart.filter _) (alsoApart.filter _)
  have named := of_decide_eq_true (List.mem_filter.mp first).2
  have alsoNamed := of_decide_eq_true (List.mem_filter.mp second).2
  exact absurd (named.trans alsoNamed.symm) other

/-- What is shown of a source: itself if it is a text, else its compact text. -/
inductive Shown : Json.Value → String → Prop
  | text : Shown (.string text) text
  | other (untexted : ∀ text, source ≠ .string text) : Shown source source.compact

theorem shown_iff {source : Json.Value} {text : String} :
    Shown source text ↔ sourceText source = text := by
  constructor
  · rintro (_ | untexted)
    · rfl
    · cases source <;> first | rfl | exact absurd rfl (untexted _)
  · rintro rfl
    cases source with
    | string text => exact .text
    | _ => exact .other fun _ => nofun

theorem mem_latest {entries : List (String × Option Json.Value)} {module : String}
    {source : Option Json.Value} :
    (module, source) ∈ latest entries ↔ counts entries module = some source := by
  rw [← latest_lookup]
  exact ⟨lookup_of_mem (latest_sorted entries), lookup_mem⟩

theorem ofText_complete {text : String} {entries : List (String × Option Json.Value)}
    (read : readEntries text = .ok entries)
    (complete : ∀ module, counts entries module ≠ some none) :
    ∃ mocks, ofText text = .ok mocks ∧ mocks.Pairwise (·.1 < ·.1) ∧
      ∀ module, mocks.lookup module =
        (counts entries module).bind fun source => source.map sourceText := by
  have all : ∀ entry ∈ latest entries, entry.2 ≠ none := fun entry member missing =>
    complete entry.1 (mem_latest.mp (missing ▸ member))
  obtain ⟨mocks, made, keys, shown⟩ := sources_complete all
  refine ⟨mocks, by simp only [ofText, read, made], ?_, fun module => by rw [shown, latest_lookup]⟩
  have sorted : (mocks.map (·.1)).Pairwise (· < ·) :=
    keys ▸ List.pairwise_map.mpr (latest_sorted entries)
  exact List.pairwise_map.mp sorted

theorem ofText_incomplete {text : String} {entries : List (String × Option Json.Value)}
    (read : readEntries text = .ok entries)
    (incomplete : ∃ module, counts entries module = some none) :
    ∃ module, counts entries module = some none ∧
      (∀ other, counts entries other = some none → other = module ∨ module < other) ∧
      ofText text = .error (noSource module) := by
  obtain ⟨module, missing⟩ := incomplete
  obtain ⟨first, found, least, failed⟩ := sources_incomplete (latest_sorted entries)
    ⟨module, mem_latest.mpr missing⟩
  refine ⟨first, mem_latest.mp found, fun other missing => least other (mem_latest.mpr missing), ?_⟩
  simp only [ofText, read, failed]

/-- A module counts without a source: it is missing, or null. -/
def Unsourced (entries : List (String × Option Json.Value)) (module : String) : Prop :=
  counts entries module = some none ∨ counts entries module = some (some .null)

/-- What is read of a mock list is decided by the entries that count: the source of each module, as
it is shown, or the first module without one. It does not matter in which order the modules come. -/
theorem exact_or_least_unsourced {text : String} {entries : List (String × Option Json.Value)}
    (read : readEntries text = .ok entries) :
    ((∃ mocks, ofText text = .ok mocks) ↔ ∀ module, ¬ Unsourced entries module) ∧
    (∀ mocks, ofText text = .ok mocks → mocks.Pairwise (·.1 < ·.1) ∧
      ∀ module shown, mocks.lookup module = some shown ↔
        ∃ source, counts entries module = some (some source) ∧ Shown source shown) ∧
    ((∃ module, Unsourced entries module) → ∃ module, Unsourced entries module ∧
      (∀ other, Unsourced entries other → other = module ∨ module < other) ∧
      ofText text = .error (.mockList ("entry '" ++ module ++ "' has no source"))) ∧
    (∀ other others, readEntries other = .ok others → Reordered entries others →
      ofText other = ofText text) ∧
    ∀ value, Json.Value.ofText text = .ok value → ∃ members, value = .object members ∧
      ∀ module, counts entries module = (members.lookup module).map given := by
  have missing (module : String) : Unsourced entries module ↔ counts entries module = some none :=
    or_iff_left (readEntries_not_null read module)
  simp only [missing]
  have fails (incomplete : ∃ module, counts entries module = some none) (mocks) :
      ofText text ≠ .ok mocks := by
    obtain ⟨module, -, -, failed⟩ := ofText_incomplete read incomplete
    simp [failed]
  refine ⟨⟨?_, ?_⟩, ?_, ofText_incomplete read, ?_, ?_⟩
  · rintro ⟨mocks, made⟩ module missing
    exact fails ⟨module, missing⟩ mocks made
  · intro complete
    obtain ⟨mocks, made, -, -⟩ := ofText_complete read complete
    exact ⟨mocks, made⟩
  · intro mocks made
    have complete (module) (missing : counts entries module = some none) : False :=
      fails ⟨module, missing⟩ mocks made
    obtain ⟨_, made', sorted, shown⟩ := ofText_complete read complete
    obtain rfl := Except.ok.inj (made.symm.trans made')
    refine ⟨sorted, fun module text => ?_⟩
    rw [shown]
    rcases counts entries module with _ | _ | source <;> simp [shown_iff]
  · intro other others also reordered
    have same : latest others = latest entries :=
      sorted_ext (latest_sorted others) (latest_sorted entries) fun module => by
        rw [latest_lookup, latest_lookup, reordered.counts]
    simp only [ofText, read, also, same]
  · exact fun value => readEntries_concurs text entries value read

/-- A list whose first entry lacks a source. -/
def mended : String := "\x7b\"a\":\x7b\x7d,\"b\":\x7b\"source\":[7,null]\x7d,\"a\":[\"x\"]\x7d"

/-- The lack is made good by a later entry. -/
theorem mended_made : ∃ mocks, ofText mended = .ok mocks ∧ mocks.lookup "a" = some "x" ∧
    mocks.lookup "b" = some "[7,null]" := by
  have read : readEntries mended = .ok [("a", none),
      ("b", some (.array [.number (.integer 7), .null])), ("a", some (.string "x"))] := rfl
  obtain ⟨⟨-, made⟩, exact, -⟩ := exact_or_least_unsourced read
  obtain ⟨mocks, made⟩ := made fun module => by
    simp only [Unsourced, counts, List.reverse_cons, List.reverse_nil, List.nil_append,
      List.cons_append, lookup_entry]
    split
    · simp
    · split <;> simp
  exact ⟨mocks, made, ((exact mocks made).2 "a" "x").mpr ⟨_, rfl, .text⟩,
    ((exact mocks made).2 "b" "[7,null]").mpr ⟨_, rfl, .other nofun⟩⟩

example : ofText "\x7b\"b\":[null],\"a\":\x7b\x7d\x7d" =
    .error (.mockList "entry 'a' has no source") := rfl

end Report.MockList
end Rendezvous

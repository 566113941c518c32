import Mathlib.Tactic.ByContra
import Rendezvous.Family

/-! Tokens and start commands name one client each. Nothing in a token is escaped, so a name may
look like the end of another token; but the three numbers stand at the right end, and decimal
digits are no `@`. Cutting at the last three `@` therefore gives back what the token was built
from, and the first letter of a command tells the two tools apart. -/
namespace Rendezvous

/-- Cuts a text at its last `@`. -/
def cutLast : List Char → Option (List Char × List Char)
  | [] => none
  | c :: rest =>
    match cutLast rest with
    | some (before, after) => some (c :: before, after)
    | none => if c = '@' then some ([], rest) else none

theorem cutLast_eq_none {text : List Char} : cutLast text = none ↔ '@' ∉ text := by
  induction text with
  | nil => simp [cutLast]
  | cons c rest ih =>
    simp only [cutLast, List.mem_cons, not_or]
    cases cut : cutLast rest with
    | some found =>
      have present : '@' ∈ rest := by
        by_contra absent
        simp [ih.mpr absent] at cut
      simp [present]
    | none =>
      have absent : '@' ∉ rest := ih.mp cut
      by_cases here : c = '@'
      · simp [here]
      · simp [here, absent, Ne.symm here]

theorem cutLast_append (before : List Char) {after : List Char} (last : '@' ∉ after) :
    cutLast (before ++ '@' :: after) = some (before, after) := by
  induction before with
  | nil => simp [cutLast, cutLast_eq_none.mpr last]
  | cons c before ih => simp [cutLast, ih]

/-- A cut loses nothing but the `@`, and that was the last one. -/
theorem cutLast_eq_some {text before after : List Char} :
    cutLast text = some (before, after) ↔ text = before ++ '@' :: after ∧ '@' ∉ after := by
  constructor
  · intro cut
    induction text generalizing before with
    | nil => simp [cutLast] at cut
    | cons c rest ih =>
      simp only [cutLast] at cut
      cases later : cutLast rest with
      | some found =>
        simp only [later, Option.some.injEq, Prod.mk.injEq] at cut
        obtain ⟨rfl, rfl⟩ := cut
        obtain ⟨rfl, last⟩ := ih later
        exact ⟨rfl, last⟩
      | none =>
        have absent : '@' ∉ rest := cutLast_eq_none.mp later
        by_cases here : c = '@'
        · simp only [later, here, if_true, Option.some.injEq, Prod.mk.injEq] at cut
          obtain ⟨rfl, rfl⟩ := cut
          exact ⟨by simp [here], absent⟩
        · simp [later, here] at cut
  · rintro ⟨rfl, last⟩
    exact cutLast_append before last

theorem at_not_mem_decimal (n : Nat) : '@' ∉ (decimal n).toList := by
  intro member
  have digit := Nat.isDigit_of_mem_toDigits (b := 10) (by decide) (by decide)
    (by simpa [decimal] using member)
  simp at digit

/-- The number that decimal digits mean. -/
def ofDecimal (digits : String) : Nat := Nat.ofDigitChars 10 digits.toList 0

@[simp] theorem ofDecimal_decimal (n : Nat) : ofDecimal (decimal n) = n := by
  simp [ofDecimal, decimal, Nat.ofDigitChars_ten_toDigits]

namespace Token

/-- What stands around the last three `@` of a token. -/
structure Parts where
  name : String
  pid : String
  uid : String
  area : String
  deriving DecidableEq

def parts (token : Token) : Option Parts := do
  let (rest, area) ← cutLast token.text.toList
  let (rest, uid) ← cutLast rest
  let (name, pid) ← cutLast rest
  return ⟨.ofList name, .ofList pid, .ofList uid, .ofList area⟩

/-- The client that a token names. -/
def client (token : Token) : Option (AppContext × Identity) :=
  token.parts.map fun parts =>
    (⟨parts.name, .ofNat (ofDecimal parts.area)⟩,
      ⟨.ofNat (ofDecimal parts.pid), .ofNat (ofDecimal parts.uid)⟩)

/-- The parts are what the token is joined from, as the last three of them hold no `@`. -/
theorem parts_eq_some {token : Token} {found : Parts} :
    token.parts = some found ↔
      token.text = found.name ++ "@" ++ found.pid ++ "@" ++ found.uid ++ "@" ++ found.area ∧
        '@' ∉ found.pid.toList ∧ '@' ∉ found.uid.toList ∧ '@' ∉ found.area.toList := by
  constructor
  · intro cut
    simp only [parts, Option.bind_eq_bind, Option.bind_eq_some_iff, Option.pure_def,
      Option.some.injEq] at cut
    obtain ⟨⟨front, area⟩, first, ⟨middle, uid⟩, second, ⟨name, pid⟩, third, rfl⟩ := cut
    obtain ⟨text, areaLast⟩ := cutLast_eq_some.mp first
    obtain ⟨rfl, uidLast⟩ := cutLast_eq_some.mp second
    obtain ⟨rfl, pidLast⟩ := cutLast_eq_some.mp third
    refine ⟨String.toList_inj.mp ?_, ?_⟩
    · simp [text]
    · simp [pidLast, uidLast, areaLast]
  · rintro ⟨text, pidLast, uidLast, areaLast⟩
    have chars : token.text.toList =
        ((found.name.toList ++ '@' :: found.pid.toList) ++ '@' :: found.uid.toList) ++
          '@' :: found.area.toList := by simp [text]
    have area := cutLast_append
      ((found.name.toList ++ '@' :: found.pid.toList) ++ '@' :: found.uid.toList) areaLast
    have uid := cutLast_append (found.name.toList ++ '@' :: found.pid.toList) uidLast
    have pid := cutLast_append found.name.toList pidLast
    simp only [parts, chars, area, uid, pid, Option.bind_eq_bind, Option.bind_some,
      String.ofList_toList]
    rfl

theorem parts_build (context : AppContext) (identity : Identity) :
    (build context identity).parts =
      some ⟨context.applicationName, decimal identity.pid.toNat, decimal identity.uid.toNat,
        decimal context.area.toNat⟩ :=
  parts_eq_some.mpr
    ⟨rfl, at_not_mem_decimal _, at_not_mem_decimal _, at_not_mem_decimal _⟩

theorem client_build (context : AppContext) (identity : Identity) :
    (build context identity).client = some (context, identity) := by
  simp [client, parts_build]

theorem build_inj {context₁ context₂ : AppContext} {identity₁ identity₂ : Identity} :
    build context₁ identity₁ = build context₂ identity₂ ↔
      context₁ = context₂ ∧ identity₁ = identity₂ := by
  constructor
  · intro same
    have client := congrArg client same
    simpa only [client_build, Option.some.injEq, Prod.mk.injEq] using client
  · rintro ⟨rfl, rfl⟩
    rfl

end Token

namespace Family

theorem startCommand_head (family : Family) (token : Token) :
    (family.startCommand token).toList.head? = family.tool.toList.head? := by
  cases family <;> simp [startCommand, tool, String.toList_append]

theorem startCommand_inj {family₁ family₂ : Family} {token₁ token₂ : Token} :
    family₁.startCommand token₁ = family₂.startCommand token₂ ↔
      family₁ = family₂ ∧ token₁ = token₂ := by
  constructor
  · intro same
    have first := congrArg (fun command => command.toList.head?) same
    simp only [startCommand_head] at first
    have families : family₁ = family₂ := by
      revert first
      cases family₁ <;> cases family₂ <;> decide
    subst families
    refine ⟨rfl, ?_⟩
    have texts : token₁.text = token₂.text := by
      simpa [startCommand] using same
    cases token₁
    cases token₂
    exact congrArg Token.mk texts
  · rintro ⟨rfl, rfl⟩
    rfl

end Family

/-- Tokens are equal only for one client, and commands only for one client of one family: the
name and the three numbers are what stands around the last three `@`. -/
theorem clients_told_apart (context₁ context₂ : AppContext) (identity₁ identity₂ : Identity)
    (family₁ family₂ : Family) :
    (Token.build context₁ identity₁ = Token.build context₂ identity₂ ↔
      context₁ = context₂ ∧ identity₁ = identity₂) ∧
    (Token.build context₁ identity₁).parts =
      some ⟨context₁.applicationName, decimal identity₁.pid.toNat, decimal identity₁.uid.toNat,
        decimal context₁.area.toNat⟩ ∧
    (Token.build context₁ identity₁).client = some (context₁, identity₁) ∧
    (family₁.startCommand (Token.build context₁ identity₁) =
        family₂.startCommand (Token.build context₂ identity₂) ↔
      family₁ = family₂ ∧ context₁ = context₂ ∧ identity₁ = identity₂) := by
  refine ⟨Token.build_inj, Token.parts_build _ _, Token.client_build _ _, ?_⟩
  rw [Family.startCommand_inj, Token.build_inj]

example : (Token.build ⟨"A@1@2", 4⟩ ⟨7, 0⟩).client = some (⟨"A@1@2", 4⟩, ⟨7, 0⟩) := by
  decide +kernel

end Rendezvous

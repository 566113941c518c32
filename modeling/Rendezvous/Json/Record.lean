import Rendezvous.Json.Reader

/-! Records in JSON text: objects with known fields, or arrays of the fields in order. Fields
that are not known are passed over, a known one must not come twice. -/
namespace Rendezvous.Json

/-- What is wrong with a text whose value has another type than asked for: a fault of the
value itself, if it has one, comes first. -/
def mistyped (expected : String) (text : List Char) : Fault :=
  match skipBlanks text with
  | [] => endBeforeValue
  | c :: rest =>
    if c = '[' ∨ c = '\x7b' then .mistyped expected
    else match scalar (c :: rest) with
      | .error fault => fault
      | .ok _ => .mistyped expected

/-! Typed values -/

def readText : Reader String := fun text =>
  match skipBlanks text with
  | '"' :: rest => string rest
  | _ => .error (mistyped "a string was expected" text)

/-- An integer from `low` to `high`. -/
def readInteger (low high : Int) : Reader Int := fun text =>
  match skipBlanks text with
  | [] => .error endBeforeValue
  | c :: rest =>
    if c = '-' ∨ isDigit c then do
      match ← Number.read (c :: rest) with
      | (.integer value, rest) =>
        if low ≤ value ∧ value ≤ high then return (value, rest)
        else .error (.mistyped "an integer is out of range")
      | (.double _, _) => .error (.mistyped "an integer was expected")
    else .error (mistyped "an integer was expected" text)

/-- A value, or nothing for `null`. -/
def readOptional (depth : Nat) : Reader (Option Value) := fun text => do
  match ← value depth text with
  | (.null, rest) => return (none, rest)
  | (found, rest) => return (some found, rest)

/-! Records -/

/-- A field of a record under construction. -/
structure Field (ρ : Type) where
  name : String
  isSet : ρ → Bool
  read : (depth : Nat) → ρ → Reader ρ

/-- Reads one member of a record. -/
def recordMember (fields : List (Field ρ)) (depth : Nat) (key : String) (gathered : ρ) : Reader ρ :=
  fun text =>
    match fields.find? fun field => field.name = key with
    | none => do
      let rest ← skip (text.length + 1) (← colon text)
      return (gathered, rest)
    | some field =>
      if field.isSet gathered then .error (.mistyped ("the field " ++ key ++ " comes twice"))
      else do field.read depth gathered (← colon text)

/-- Reads the fields of a record in their order. -/
def recordItems (depth : Nat) : List (Field ρ) → (first : Bool) → ρ → Reader ρ
  | [], _, gathered, text =>
    match skipBlanks text with
    | [] => .error (.ended "the text ends inside an array")
    | c :: rest =>
      if c = ']' then .ok (gathered, rest) else .error (.malformed "an array is too long")
  | field :: fields, first, gathered, text => do
    match ← nextItem first text with
    | none => .error (.mistyped "an array is too short")
    | some text =>
      let (gathered, rest) ← field.read depth gathered text
      recordItems depth fields false gathered rest

/-- Reads a record; `complete` looks whether all its fields are there. -/
def record (fields : List (Field ρ)) (empty : ρ) (complete : ρ → Option α) (depth : Nat) :
    Reader α := fun text =>
  match depth, skipBlanks text with
  | _, [] => .error endBeforeValue
  | 0, c :: rest =>
    if c = '[' ∨ c = '\x7b' then .error tooDeep
    else .error (mistyped "a record was expected" (c :: rest))
  | depth + 1, c :: rest =>
    if c = '[' then do
      let (gathered, rest) ← recordItems depth fields true empty rest
      finishRecord gathered rest
    else if c = '\x7b' then do
      let (gathered, rest) ← members (recordMember fields depth) (rest.length + 1) true empty rest
      finishRecord gathered rest
    else .error (mistyped "a record was expected" (c :: rest))
where
  finishRecord (gathered : ρ) (rest : List Char) : Except Fault (α × List Char) :=
    match complete gathered with
    | some found => .ok (found, rest)
    | none => .error (.mistyped "a field is missing")

/-! Writing -/

/-- An object of fields whose values are written already, in the order given. -/
def recordText (fields : List (String × List Char)) : String :=
  String.ofList (['\x7b'] ++
    List.intercalate [','] (fields.map fun (name, value) => quoted name ++ [':'] ++ value) ++
    ['\x7d'])

end Rendezvous.Json

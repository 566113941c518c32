/-! TOML documents as trees. A table remembers how it came to be, because that decides what
may still be added to it: a header or dotted keys open a table once, an inline table is
complete where it stands. -/
namespace Rendezvous.Toml

inductive Origin where
  /-- Written in braces. -/
  | inline
  /-- Opened by a header of its own. -/
  | header
  /-- Passed through on the way to a header. -/
  | path
  /-- Passed through by a dotted key. -/
  | dotted
  deriving DecidableEq, Repr

inductive Value where
  | string (value : String)
  | integer (value : Int)
  | float
  | boolean (value : Bool)
  /-- A date, a time or both, in their standard text. -/
  | datetime (text : String)
  | array (items : List Value)
  | table (origin : Origin) (members : List (String × Value))
  /-- An array of tables that have headers. -/
  | tables (rows : List (List (String × Value)))
  deriving Repr

/-- Members by key, no key twice. -/
abbrev Table := List (String × Value)

namespace Table

/-- Sets a member, in its old place if it has one. -/
def set (key : String) (value : Value) : Table → Table
  | [] => [(key, value)]
  | (other, present) :: rest =>
    if other = key then (key, value) :: rest else (other, present) :: set key value rest

/-- Edits the table at the end of a path, making the tables that are missing on the way. A
dotted key passes neither through a table with a header nor through an inline one; a header
passes through all but inline ones, and through the last row of an array of tables. -/
def update (dotted : Bool) (edit : Origin → Table → Option Table) :
    (path : List String) → Origin → Table → Option Table
  | [], origin, table => edit origin table
  | key :: path, _, table =>
    match table.lookup key with
    | none => do
      let origin := if dotted then .dotted else .path
      return set key (.table origin (← update dotted edit path origin [])) table
    | some (.table origin inner) =>
      if origin = .inline ∨ dotted = true ∧ origin = .header then none
      else do return set key (.table origin (← update dotted edit path origin inner)) table
    | some (.tables rows) => do
      let row ← update dotted edit path .header (← rows.getLast?)
      return set key (.tables (rows.dropLast ++ [row])) table
    | some _ => none

/-- Adds the member that a dotted key names. The table it goes into is the present one, or
one that dotted keys have made. -/
def put (path : List String) (key : String) (value : Value) (table : Table) : Option Table :=
  update true (fun origin inner =>
    if path ≠ [] ∧ origin ≠ .dotted then none
    else if (inner.lookup key).isSome then none
    else some (inner ++ [(key, value)])) path .header table

/-- Adds a member below the table that was opened last. -/
def putBelow (opened path : List String) (key : String) (value : Value) (table : Table) :
    Option Table :=
  update false (fun _ inner => put path key value inner) opened .header table

/-- Opens a table by its header: a new one, or one that was only passed through so far. -/
def openTable (path : List String) (key : String) (table : Table) : Option Table :=
  update false (fun _ inner =>
    match inner.lookup key with
    | none => some (inner ++ [(key, .table .header [])])
    | some (.table .path members) => some (set key (.table .header members) inner)
    | some _ => none) path .header table

/-- Opens a new row of an array of tables. -/
def openRow (path : List String) (key : String) (table : Table) : Option Table :=
  update false (fun _ inner =>
    match inner.lookup key with
    | none => some (inner ++ [(key, .tables [[]])])
    | some (.tables rows) => some (set key (.tables (rows ++ [[]])) inner)
    | some _ => none) path .header table

end Table
end Rendezvous.Toml

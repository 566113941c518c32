import Rendezvous.Token
import Rendezvous.Local.Files
import Rendezvous.Local.Parameters

/-! What the system keeps about a process, as the texts in which it shows it: the block of its
environment, and its status, from which the numbers of process and user are read. -/
namespace Rendezvous.Local

open Text.Utf8 (Bytes)

/-- The entries of an environment block, each ended by a zero. -/
def blockEntries : Bytes → List Bytes
  | [] => []
  | byte :: rest =>
    match blockEntries rest with
    | [] => if byte = 0 then [[]] else [[byte]]
    | entry :: others => if byte = 0 then [] :: entry :: others else (byte :: entry) :: others

/-- A variable from its entry: the name goes up to the first equals sign. -/
def readEntry (entry : Bytes) : Option (String × Bytes) :=
  let name := entry.takeWhile (· ≠ 0x3D)
  match entry.drop name.length, Text.Utf8.decode? name with
  | _ :: value, some name => some (name, value)
  | _, _ => none

/-- The variables of an environment block. A name that is not a text is passed over. -/
def Variables.ofBlock (block : Bytes) : Variables := (blockEntries block).filterMap readEntry

/-- The first number in a line of a process status under a title. -/
def statusNumber? (status title : String) : Option UInt32 := do
  let line ← (status.splitOn "\n").find? fun line => title.toList.isPrefixOf line.toList
  let digits := ((line.toList.drop title.length).dropWhile Char.isWhitespace).takeWhile Char.isDigit
  return (← (String.ofList digits).toNat?).toUInt32

/-- The identity that a process status tells. -/
def identity? (status : String) : Option Identity := do
  return ⟨← statusNumber? status "Pid:", ← statusNumber? status "Uid:"⟩

end Rendezvous.Local

import Rendezvous.Json.Number

/-! JSON values and their compact text. The members of an object stand in the order of their
keys' code points, no key twice. -/
namespace Rendezvous.Json

inductive Value where
  | null
  | boolean (value : Bool)
  | number (value : Number)
  | string (value : String)
  | array (items : List Value)
  | object (members : List (String × Value))
  deriving Repr

/-- Sets a key of an association list sorted by key; the old value is gone. -/
def insertSorted (key : String) (value : α) : List (String × α) → List (String × α)
  | [] => [(key, value)]
  | (other, present) :: rest =>
    if key < other then (key, value) :: (other, present) :: rest
    else if key = other then (key, value) :: rest
    else (other, present) :: insertSorted key value rest

/-- A character inside quotes: quotes, backslashes and controls are escaped, all others
stand as they are. -/
def escape (c : Char) : List Char :=
  if c = '"' then ['\\', '"']
  else if c = '\\' then ['\\', '\\']
  else if c = '\x08' then ['\\', 'b']
  else if c = '\t' then ['\\', 't']
  else if c = '\n' then ['\\', 'n']
  else if c = '\x0c' then ['\\', 'f']
  else if c = '\r' then ['\\', 'r']
  else if c.toNat < 0x20 then
    ['\\', 'u', '0', '0', Nat.digitChar (c.toNat / 16), Nat.digitChar (c.toNat % 16)]
  else [c]

def quoted (text : String) : List Char := '"' :: text.toList.flatMap escape ++ ['"']

namespace Value

mutual
def chars : Value → List Char
  | .null => ['n', 'u', 'l', 'l']
  | .boolean true => ['t', 'r', 'u', 'e']
  | .boolean false => ['f', 'a', 'l', 's', 'e']
  | .number value => value.text
  | .string value => quoted value
  | .array [] => ['[', ']']
  | .array (item :: rest) => '[' :: item.chars ++ restChars rest ++ [']']
  | .object [] => ['\x7b', '\x7d']
  | .object ((key, value) :: rest) =>
    '\x7b' :: quoted key ++ ':' :: value.chars ++ membersChars rest ++ ['\x7d']

def restChars : List Value → List Char
  | [] => []
  | item :: rest => ',' :: item.chars ++ restChars rest

def membersChars : List (String × Value) → List Char
  | [] => []
  | (key, value) :: rest => ',' :: quoted key ++ ':' :: value.chars ++ membersChars rest
end

/-- The text without any blank between tokens. -/
def compact (value : Value) : String := String.ofList value.chars

end Value

/-- An object of strings over several lines, one member a line. -/
def spread (members : List (String × String)) : String :=
  match members with
  | [] => String.ofList ['\x7b', '\x7d']
  | members =>
    let lines := members.map fun (key, value) =>
      "  " ++ String.ofList (quoted key) ++ ": " ++ String.ofList (quoted value)
    String.ofList ['\x7b', '\n'] ++ String.intercalate ",\n" lines ++ String.ofList ['\n', '\x7d']

end Rendezvous.Json

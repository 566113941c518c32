/-! UTF-8, written and read byte by byte. A sequence that is no character ends before the
first byte that cannot belong to it; the strict reading refuses it, the lenient one puts
U+FFFD in its place. -/
namespace Rendezvous.Text.Utf8

abbrev Bytes := List UInt8

def encode (text : String) : Bytes := text.toUTF8.toList

/-- What a first byte announces: its own bits, how many bytes follow, and the bounds of the
second byte. -/
structure Lead where
  bits : Nat
  following : Nat
  low : Nat := 0x80
  high : Nat := 0xBF

def lead? (byte : Nat) : Option Lead :=
  if byte < 0x80 then some { bits := byte, following := 0 }
  else if byte < 0xC2 then none
  else if byte < 0xE0 then some { bits := byte - 0xC0, following := 1 }
  else if byte = 0xE0 then some { bits := 0, following := 2, low := 0xA0 }
  else if byte = 0xED then some { bits := 0xD, following := 2, high := 0x9F }
  else if byte < 0xF0 then some { bits := byte - 0xE0, following := 2 }
  else if byte = 0xF0 then some { bits := 0, following := 3, low := 0x90 }
  else if byte = 0xF4 then some { bits := 4, following := 3, high := 0x8F }
  else if byte < 0xF4 then some { bits := byte - 0xF0, following := 3 }
  else none

/-- Reads the bytes that follow a first one, as far as they belong to it. -/
def follow (bits low high : Nat) : (following : Nat) → Bytes → Option Nat × Bytes
  | 0, rest => (some bits, rest)
  | _ + 1, [] => (none, [])
  | following + 1, byte :: rest =>
    if low ≤ byte.toNat ∧ byte.toNat ≤ high then
      follow (64 * bits + (byte.toNat - 0x80)) 0x80 0xBF following rest
    else (none, byte :: rest)

/-- The first character, or nothing for a bad sequence, and what is behind it. -/
def step (byte : UInt8) (rest : Bytes) : Option Char × Bytes :=
  match lead? byte.toNat with
  | none => (none, rest)
  | some lead =>
    let (point, rest) := follow lead.bits lead.low lead.high lead.following rest
    (point.map Char.ofNat, rest)

/-- The characters of a text, with nothing for each bad sequence. -/
def characters : (fuel : Nat) → Bytes → List (Option Char)
  | 0, _ => []
  | _ + 1, [] => []
  | fuel + 1, byte :: rest =>
    let (c, rest) := step byte rest
    c :: characters fuel rest

def decodeAll (bytes : Bytes) : List (Option Char) := characters bytes.length bytes

/-- The text, if every sequence is a character. -/
def decode? (bytes : Bytes) : Option String := ((decodeAll bytes).mapM id).map String.ofList

/-- The text with U+FFFD for every bad sequence. -/
def decodeLossy (bytes : Bytes) : String :=
  String.ofList ((decodeAll bytes).map fun c => c.getD '\ufffd')

end Rendezvous.Text.Utf8

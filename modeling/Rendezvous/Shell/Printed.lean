import Rendezvous.Shell.Expansion

/-! What `echo` and `printf` print: escapes behind backslashes, and values put into a format,
which is gone through again as long as values are left. -/
namespace Rendezvous.Shell.Printed

def escape? : Char → Option Char
  | 'a' => some '\x07'
  | 'b' => some '\x08'
  | 'e' => some '\x1b'
  | 'f' => some '\x0c'
  | 'n' => some '\n'
  | 'r' => some '\r'
  | 't' => some '\t'
  | 'v' => some '\x0b'
  | '\\' => some '\\'
  | _ => none

def isOctal (c : Char) : Bool := '0' ≤ c && c ≤ '7'

def octal (digits : Octets) : Char := Char.ofNat (Sum.inBase 8 digits % 256)

/-- Replaces escapes; octal numbers have up to three digits, and a leading zero does not count
among them. Tells whether the end of all output was asked for. -/
def unescape : (fuel : Nat) → Octets → Octets × Bool
  | 0, _ => ([], false)
  | _ + 1, [] => ([], false)
  | fuel + 1, '\\' :: c :: rest =>
    let go (c : Octets) (rest : Octets) : Octets × Bool :=
      let (chars, stop) := unescape fuel rest
      (c ++ chars, stop)
    if c = 'c' then ([], true)
    else if isOctal c then
      let digits := if c = '0' then rest else c :: rest
      let number := (digits.take 3).takeWhile isOctal
      go [octal number] (digits.drop number.length)
    else match escape? c with
      | some c => go [c] rest
      | none => go ['\\', c] rest
  | fuel + 1, c :: rest =>
    let (chars, stop) := unescape fuel rest
    (c :: chars, stop)

/-- What `echo` prints. -/
def echo (arguments : List Octets) : Octets :=
  let (quiet, arguments) := match arguments with
    | ['-', 'n'] :: rest => (true, rest)
    | arguments => (false, arguments)
  let text := (arguments.intersperse [' ']).flatten
  let (chars, stop) := unescape (text.length + 1) text
  if quiet ∨ stop then chars else chars ++ ['\n']

/-- What stands between the percent sign and the letter of a directive. -/
structure Directive where
  leftward : Bool := false
  zeros : Bool := false
  plus : Bool := false
  blank : Bool := false
  marked : Bool := false
  width : Nat := 0
  precision : Option Nat := none

namespace Directive

def pad (directive : Directive) (lead body : Octets) (zeros : Bool) : Octets :=
  let missing := directive.width - lead.length - body.length
  if directive.leftward then lead ++ body ++ List.replicate missing ' '
  else if zeros then lead ++ List.replicate missing '0' ++ body
  else List.replicate missing ' ' ++ lead ++ body

def text (directive : Directive) (value : Octets) : Octets :=
  directive.pad [] (match directive.precision with
    | none => value
    | some count => value.take count) false

/-- A number by the letter of its directive. -/
def number (directive : Directive) (letter : Char) (value : Int) : Octets :=
  let unsigned := (value % Nat.pow 2 64).toNat
  let (lead, digits) : Octets × Octets :=
    if letter = 'd' ∨ letter = 'i' then
      (if value < 0 then ['-'] else if directive.plus then ['+'] else if directive.blank then [' ']
        else [], Nat.toDigits 10 value.natAbs)
    else if letter = 'o' then (if directive.marked then ['0'] else [], Nat.toDigits 8 unsigned)
    else if letter = 'x' then
      (if directive.marked ∧ unsigned ≠ 0 then ['0', 'x'] else [], Nat.toDigits 16 unsigned)
    else if letter = 'X' then
      (if directive.marked ∧ unsigned ≠ 0 then ['0', 'X'] else [],
        (Nat.toDigits 16 unsigned).map Char.toUpper)
    else ([], Nat.toDigits 10 unsigned)
  let digits := List.replicate (directive.precision.getD 1 - digits.length) '0' ++ digits
  directive.pad lead digits (directive.zeros && directive.precision.isNone)

end Directive

/-- What has been printed, and what there was to complain about. -/
structure Progress where
  chars : Octets := []
  complaints : List String := []
  values : List Octets
  /-- Whether a value was asked for. -/
  asked : Bool := false
  stopped : Bool := false
  /-- Whether the format itself is wrong. -/
  broken : Bool := false

namespace Progress

def add (chars : Octets) (progress : Progress) : Progress :=
  { progress with chars := progress.chars ++ chars }

def complain (text : String) (progress : Progress) : Progress :=
  { progress with complaints := progress.complaints ++ [text] }

/-- The next value, if there is one. -/
def take (progress : Progress) : Option Octets × Progress :=
  (progress.values.head?, { progress with values := progress.values.drop 1, asked := true })

/-- The next value as a number. What cannot be read counts as far as it can. -/
def takeNumber (progress : Progress) : Int × Progress :=
  let (value, progress) := progress.take
  match value.getD [] with
  | [] => (0, progress)
  | '"' :: rest | '\'' :: rest => (((rest.head?.elim 0 Char.toNat : Nat) : Int), progress)
  | value =>
    let plain := value.dropWhile Sum.isSpace
    let (negative, digits) : Bool × Octets := match plain with
      | '-' :: digits => (true, digits)
      | '+' :: digits => (false, digits)
      | digits => (false, digits)
    let (size, rest) := Sum.leadingNumber digits
    let limit := if negative then Sum.largest + 1 else Sum.largest
    let number : Int := if negative then -(min size limit : Nat) else (min size limit : Nat)
    if digits.head?.all (!Char.isDigit ·) then
      (0, progress.complain (shown value ++ ": expected numeric value"))
    else if ¬rest.isEmpty then
      (number, progress.complain (shown value ++ ": not completely converted"))
    else if limit < size then
      (number, progress.complain (shown value ++ ": Numerical result out of range"))
    else (number, progress)

end Progress

/-- The flags, width and precision of a directive; a star takes the next value. -/
def directive (progress : Progress) (format : Octets) : Directive × Progress × Octets :=
  let isFlag (c : Char) : Bool := c = '-' || c = '0' || c = '+' || c = ' ' || c = '#'
  let flags := format.takeWhile isFlag
  let rest := format.dropWhile isFlag
  let size (progress : Progress) : Octets → Int × Progress × Octets
    | '*' :: rest =>
      let (value, progress) := progress.takeNumber
      (value, progress, rest)
    | rest => (Sum.inBase 10 (rest.takeWhile Char.isDigit), progress, rest.dropWhile Char.isDigit)
  let (width, progress, rest) := size progress rest
  let basic : Directive :=
    { leftward := flags.contains '-' || width < 0, zeros := flags.contains '0'
      plus := flags.contains '+', blank := flags.contains ' '
      marked := flags.contains '#', width := width.natAbs }
  match rest with
  | '.' :: rest =>
    let (precision, progress, rest) := size progress rest
    ({ basic with precision := some precision.toNat }, progress, rest)
  | rest => (basic, progress, rest)

/-- Goes through a format once. -/
def pass : (fuel : Nat) → Octets → Progress → Progress
  | 0, _, progress => progress
  | fuel + 1, format, progress =>
    if progress.stopped ∨ progress.broken then progress
    else match format with
      | [] => progress
      | '\\' :: c :: rest =>
        if isOctal c then
          let number := ((c :: rest).take 3).takeWhile isOctal
          pass fuel ((c :: rest).drop number.length) (progress.add [octal number])
        else match escape? c with
          | some c => pass fuel rest (progress.add [c])
          | none => pass fuel rest (progress.add ['\\', c])
      | '%' :: '%' :: rest => pass fuel rest (progress.add ['%'])
      | '%' :: rest =>
        let (directive, progress, after) := directive progress rest
        match after with
        | 's' :: rest =>
          let (value, progress) := progress.take
          pass fuel rest (progress.add (directive.text (value.getD [])))
        | 'b' :: rest =>
          let (value, progress) := progress.take
          let value := value.getD []
          let (chars, stop) := unescape (value.length + 1) value
          pass fuel rest { progress.add (directive.text chars) with stopped := stop }
        | 'c' :: rest =>
          let (value, progress) := progress.take
          pass fuel rest (progress.add (directive.text [((value.getD []).head?.getD '\x00')]))
        | letter :: rest =>
          if ['d', 'i', 'u', 'o', 'x', 'X'].contains letter then
            let (value, progress) := progress.takeNumber
            pass fuel rest (progress.add (directive.number letter value))
          else
            let written := '%' :: (format.drop 1).take (format.length - 1 - rest.length)
            { progress.complain (shown written ++ ": invalid directive") with broken := true }
        | [] => { progress.complain "%: invalid directive" with broken := true }
      | c :: rest => pass fuel rest (progress.add [c])

/-- Goes through a format until all values are used up. -/
def passes (format : Octets) : (fuel : Nat) → Progress → Progress
  | 0, progress => progress
  | fuel + 1, progress =>
    let next := pass (format.length + 1) format { progress with asked := false }
    if next.values.isEmpty ∨ ¬next.asked ∨ next.stopped ∨ next.broken then next
    else passes format fuel next

/-- What `printf` prints. -/
def printf (format : Octets) (values : List Octets) : Progress :=
  passes format (values.length + 1) { values := values }

end Rendezvous.Shell.Printed

import Rendezvous.Error
import Rendezvous.Json.Value
import Rendezvous.Report.Sink

/-! Coverage reports: a text cut into chunks of equally many characters, each on a line of
its own behind a key. A text that fills its last chunk is followed by an empty one. -/
namespace Rendezvous.Report.Coverage

def dataKey : String := "OHOS_REPORT_COVERAGE_DATA:"

def errorKey : String := "OHOS_REPORT_ERROR_MESSAGE:"

/-- Reported when there is no coverage. -/
def missing : String := "Coverage data generation failed. Please clean up the project and rerun"

def key (payload : Option String) : String := if payload.isSome then dataKey else errorKey

def text (payload : Option String) : String := payload.getD missing

/-- A chunk holds at least one character. -/
def width (chunkLength : UInt64) : Nat := max chunkLength.toNat 1

/-- Position of a chunk's first character, or of the end of the text. -/
def start (size width index : Nat) : Nat := min (index * width) size

/-- Position behind a chunk's last character. -/
def stop (size width index : Nat) : Nat := min ((index + 1) * width) size

def chunk (chars : Array Char) (width index : Nat) : List Char :=
  (chars.extract (start chars.size width index) (stop chars.size width index)).toList

/-- The chunks with the indices from zero to the number of full ones. -/
def chunks (chars : List Char) (width : Nat) : List (List Char) :=
  let chars := chars.toArray
  (List.range (chars.size / width + 1)).map (chunk chars width)

def lines (payload : Option String) (chunkLength : UInt64) : List String :=
  (chunks (text payload).toList (width chunkLength)).map fun chunk =>
    key payload ++ " " ++ String.ofList chunk

/-- The texts that are written one by one: each line, then its end. -/
def writes (lines : List String) : List String := lines.flatMap fun line => [line, "\n"]

/-- Writes the report of a value, or of its absence, and counts the lines. What the sink says of a
write that it refuses is the error. -/
def emit (payload : Option Json.Value) (chunkLength : UInt64) (sink : Sink) :
    Except Error Nat × Sink :=
  let lines := lines (payload.map Json.Value.compact) chunkLength
  match sink.writeAll (writes lines) with
  | (.ok (), sink) => (.ok lines.length, sink)
  | (.error refusal, sink) => (.error (.io refusal), sink)

end Rendezvous.Report.Coverage
